/-
**The `generate` command**: a request, and a search for its number.

The command asks for the head of the chain, sends a request, and then looks for `Revealed` events, each
time from the head that it saw before to the one that it sees now, ten times at most.

* `requestWithCallbackWrapper` — the number in the first log of the receipt. A transaction that reverts
  has a receipt without logs, and the command panics.
* `pollReveals` — the search, with the heads that the node answers, which may also go back.
* `pollReveals_spec` — no block is skipped between two searches.
* `generate_prints` — in every run: all numbers that are printed are the one combined of the user's
  contribution and the provider's, and one is printed exactly if some head that the node answered has a
  reveal of the request.
-/

import Dice.Sdk.Client
import Dice.Service.Events

set_option linter.unusedSectionVars false

namespace Dice

variable {Bytes32 : Type}

open DiceProtocol (Signer Made start_requestV2_done eventsSince_requested made_of_checks)

/-! ### The command -/

/-- Why the command ends without a result. -/
inductive GenerateError where
  | rpc (error : RpcError)
  /-- "Request failed" -/
  | requestFailed
  /-- "No log with sequence number" -/
  | noSequenceNumber
  | panicked
  deriving DecidableEq

section Functions

variable (K : Keccak Bytes32) [DecidableEq Bytes32]

/-- The logs in the receipt of a transaction that makes no message call. -/
def receiptLogs (m : Message Bytes32) (w : World Bytes32) : List (Event Bytes32) :=
  match start K m w with
  | .done w' => w'.eventsSince w
  | _ => []

/-- The transaction of a wrapper, for the fee that `getFee` returned. -/
def wrapperMessage (signer : Signer) (provider : Address) (userRandomness : Bytes32) (fee : ℕ) :
    Message Bytes32 where
  msg := ⟨signer.address, fee, signer.address_ne_zero⟩
  call := .requestV2 provider userRandomness 0

/-- `request_with_callback_wrapper`. The fee is read in one state and the transaction is executed in
another, if ever. -/
def requestWithCallbackWrapper (signer : Signer) (provider : Address) (userRandomness : Bytes32)
    (feeAt : World Bytes32) (executed : Option (World Bytes32)) : Except GenerateError ℕ :=
  match executed with
  | none => .error .requestFailed
  | some w =>
      match receiptLogs K
        (wrapperMessage signer provider userRandomness (getFeeV2 feeAt.state provider 0)) w with
      | [] => .error .panicked
      | .requested _ _ n _ _ :: _ => .ok n
      | _ :: _ => .error .noSequenceNumber

variable {K} (chain : Chain K)

/-- The loop of `generate`, from the head that was seen before, with the answers to
`get_block_number`: the random numbers of the events that it finds. -/
def pollReveals (provider : Address) (n : ℕ) :
    ℕ → List (Except RpcError ℕ) → Except GenerateError (List Bytes32)
  | _, [] => .ok []
  | _, .error error :: _ => .error (.rpc error)
  | last, .ok current :: answers =>
      match (chain.revealedLogs provider n last current).map (·.1.randomNumber) with
      | [] => pollReveals provider n current answers
      | number :: numbers => .ok (number :: numbers)

/-- `generate`, with the head before the request and the answers after it: the numbers that it prints. -/
def generate (signer : Signer) (provider : Address) (userRandomness : Bytes32) (firstHead : ℕ)
    (feeAt : World Bytes32) (executed : Option (World Bytes32))
    (answers : List (Except RpcError ℕ)) : Except GenerateError (List Bytes32) := do
  let n ← requestWithCallbackWrapper K signer provider userRandomness feeAt executed
  pollReveals chain provider n firstHead (answers.take 10)

end Functions

/-! ### The search -/

section Search

variable {K : Keccak Bytes32} [DecidableEq Bytes32] {chain : Chain K} {provider : Address} {n : ℕ}
variable {answers : List (Except RpcError ℕ)} {numbers : List Bytes32} {b first last head : ℕ}

/-- A `Revealed` event of a request, in a block. -/
def Chain.RevealsIn (chain : Chain K) (provider : Address) (n b : ℕ)
    (event : RevealedFilter Bytes32) : Prop :=
  ∃ log ∈ chain.logsIn b, Entry.revealedEvent (provider, n) (.emitted log.1) = some event

theorem mem_revealedLogs {event : RevealedFilter Bytes32} :
    event ∈ (chain.revealedLogs provider n first last).map Prod.fst ↔
      ∃ b, first ≤ b ∧ b ≤ last ∧ chain.RevealsIn provider n b event := by
  unfold Chain.revealedLogs
  rw [List.mem_map]
  constructor
  · rintro ⟨⟨_, logMeta⟩, member, rfl⟩
    obtain ⟨log, here, decoded⟩ := List.mem_filterMap.mp member
    obtain ⟨revealed, found, same⟩ := Option.map_eq_some_iff.mp decoded
    cases same
    obtain ⟨lower, upper, inBlock⟩ := Chain.mem_logs.mp here
    exact ⟨_, lower, upper, log, inBlock, found⟩
  · rintro ⟨b, lower, upper, log, inBlock, found⟩
    have number := Chain.logsIn_blockNumber inBlock
    refine ⟨(event, log.2), List.mem_filterMap.mpr ⟨log, Chain.mem_logs.mpr ?_, ?_⟩, rfl⟩
    · rw [number]
      exact ⟨lower, upper, inBlock⟩
    · show Option.map _ _ = _
      rw [found]
      rfl

/-- **What the search finds.** As long as nothing was revealed before the head that was seen last: it
prints numbers of events in the blocks up to some head, and it prints none only if no head has one. -/
theorem pollReveals_spec (unseen : ∀ b event, chain.RevealsIn provider n b event → last ≤ b)
    (returned : pollReveals chain provider n last answers = .ok numbers) :
    (∀ number ∈ numbers, ∃ head, .ok head ∈ answers ∧ ∃ b ≤ head, ∃ event,
        chain.RevealsIn provider n b event ∧ number = event.randomNumber) ∧
      (numbers = [] ↔ ∀ head, .ok head ∈ answers → ∀ b ≤ head, ∀ event,
        ¬ chain.RevealsIn provider n b event) := by
  induction answers generalizing last with
  | nil =>
    cases returned
    exact ⟨fun _ none => absurd none List.not_mem_nil,
      fun _ _ none => absurd none List.not_mem_nil, fun _ => rfl⟩
  | cons answer answers ih =>
    cases answer with
    | error error => cases returned
    | ok current =>
      unfold pollReveals at returned
      split at returned
      · next empty =>
        -- nothing up to this head, so the next search may begin with it
        have nothing : ∀ b event, chain.RevealsIn provider n b event → current < b := by
          intro b event reveals
          by_contra within
          have member := mem_revealedLogs.mpr
            ⟨b, unseen b event reveals, Nat.le_of_not_lt within, reveals⟩
          rw [List.map_eq_nil_iff.mp empty] at member
          cases member
        obtain ⟨printed, none_iff⟩ :=
          ih (fun b event reveals => Nat.le_of_lt (nothing b event reveals)) returned
        refine ⟨fun number member => ?_, none_iff.trans ⟨fun none head member => ?_, ?_⟩⟩
        · obtain ⟨head, answered, found⟩ := printed number member
          exact ⟨head, List.mem_cons_of_mem _ answered, found⟩
        · rcases List.mem_cons.mp member with same | later
          · cases same
            intro b within event reveals
            exact absurd (nothing b event reveals) (Nat.not_lt_of_le within)
          · exact none head later
        · exact fun none head member => none head (List.mem_cons_of_mem _ member)
      · next number rest found =>
        cases returned
        have here : ∀ number' ∈ number :: rest, ∃ b ≤ current, ∃ event,
            chain.RevealsIn provider n b event ∧ number' = event.randomNumber := by
          intro number' member
          rw [← found, List.mem_map] at member
          obtain ⟨log, inside, rfl⟩ := member
          obtain ⟨b, _, within, reveals⟩ := mem_revealedLogs.mp (List.mem_map_of_mem inside)
          exact ⟨b, within, _, reveals, rfl⟩
        refine ⟨fun number' member => ⟨current, List.mem_cons_self, here number' member⟩,
          fun none => absurd none (List.cons_ne_nil _ _), fun none => ?_⟩
        obtain ⟨b, within, event, reveals, _⟩ := here number List.mem_cons_self
        exact absurd reveals (none current List.mem_cons_self b within event)

end Search

/-! ### The command in a run -/

section Runs

variable {K : Keccak Bytes32} [DecidableEq Bytes32] {chain : Chain K} {provider : Address} {n : ℕ}
variable {w w' : World Bytes32} {event : RevealedFilter Bytes32} {b b' previous : ℕ}

/-- **A transaction in a block**, the one after `previous`: it is executed in `w`. -/
structure Chain.Includes (chain : Chain K) (m : Message Bytes32) (previous : ℕ)
    (w : World Bytes32) : Prop where
  deployed : chain.deployedAt ≤ previous
  before : (dice K).Reachable anyCall
    ⟨mine (chain.mined (previous + 1)) (chain.atBlock previous), []⟩ ⟨w, []⟩
  after : ∀ w', start K m w = .done w' →
    (dice K).Reachable anyCall ⟨w', []⟩ ⟨chain.atBlock (previous + 1), []⟩

theorem Chain.Includes.reachable {m : Message Bytes32} (includes : chain.Includes m previous w) :
    Reachable K anyCall ⟨w, []⟩ := by
  obtain ⟨d, origin, created, run⟩ :=
    (Chain.block_reachable includes.deployed).step K (.idle (chain.mined (previous + 1))) trivial
  exact ⟨d, origin, created, .trans _ run includes.before⟩

/-- The block in which a request was made. -/
theorem DiceProtocol.Made.requestedIn {m : Message Bytes32} {u : Bytes32}
    (includes : chain.Includes m previous w) (started : start K m w = .done w')
    (made : Made K m.msg provider u n w w') : chain.RequestedIn (provider, n) (previous + 1) := by
  have reach := includes.reachable
  have mined := (Chain.block_reachable includes.deployed).step K
    (.idle (chain.mined (previous + 1))) trivial
  have reach' := reach.step K (.call m) trivial
  rw [CallStack.Component.step_done started] at reach'
  have still := (reach'.reports (includes.after w' started) rfl rfl (provider, n)).2.requests
    made.used
  refine .of_first (Nat.le_succ_of_le includes.deployed) ?_ fun entry old => ?_
  · obtain ⟨_, _, member⟩ := made.requested
    rw [still]
    exact List.ne_nil_of_mem member
  · -- the number was not used in the block before
    have unused : ¬ (chain.atBlock previous).Used (provider, n) := fun used =>
      made.fresh ((mined.reports includes.before rfl rfl (provider, n)).2.used used)
    have nothing := ((Chain.block_reachable includes.deployed).reported (provider, n)).unused unused
    have here : entry ∈ (chain.atBlock previous).history := by
      rw [← Chain.historyAt_of_deployed includes.deployed]
      exact old
    exact Bool.eq_false_iff.mpr fun requests =>
      List.filter_eq_nil_iff.mp nothing.2 entry here requests

/-- **A number that the wrapper returns** is the next one of the provider. -/
theorem requestWithCallbackWrapper_made {signer : Signer} {u : Bytes32} {feeAt : World Bytes32}
    (reach : Reachable K anyCall ⟨w, []⟩)
    (returned : requestWithCallbackWrapper K signer provider u feeAt (some w) = .ok n) :
    ∃ w', start K (wrapperMessage signer provider u (getFeeV2 feeAt.state provider 0)) w =
        .done w' ∧ Reachable K anyCall ⟨w', []⟩ ∧
      Made K (wrapperMessage signer provider u (getFeeV2 feeAt.state provider 0)).msg provider u n
        w w' := by
  unfold requestWithCallbackWrapper receiptLogs at returned
  simp only at returned
  cases started : start K (wrapperMessage signer provider u (getFeeV2 feeAt.state provider 0)) w with
  | reverted error =>
    rw [started] at returned
    cases returned
  | calling w₁ pending =>
    rw [started] at returned
    cases returned
  | done w' =>
    rw [started] at returned
    have reach' := reach.step K (.call (wrapperMessage signer provider u
      (getFeeV2 feeAt.state provider 0))) trivial
    rw [CallStack.Component.step_done started] at reach'
    obtain ⟨gasLimit10k, checks, rfl⟩ := start_requestV2_done started
    simp only [eventsSince_requested] at returned
    cases returned
    exact ⟨_, rfl, reach', made_of_checks reach.sound checks⟩

/-- What was revealed by a block is in its state. -/
theorem Chain.RevealsIn.event_mem (reveals : chain.RevealsIn provider n b event) (later : b ≤ b')  :
    event ∈ (chain.atBlock b').revealedEvents (provider, n) ∧ chain.deployedAt ≤ b := by
  obtain ⟨log, member, decoded⟩ := reveals
  have logged : log.1 ∈ (chain.logsIn b).map Prod.fst := List.mem_map_of_mem member
  rw [Chain.logsIn_events] at logged
  obtain ⟨entry, new, same⟩ := List.mem_filterMap.mp logged
  have here : entry ∈ chain.historyAt b := by
    rw [← Chain.newEntries_append]
    exact List.mem_append_left _ (List.mem_reverse.mp new)
  have deployed : chain.deployedAt ≤ b := by
    by_contra early
    unfold Chain.historyAt at here
    rw [if_pos (Nat.lt_of_not_le early)] at here
    cases here
  rw [Chain.historyAt_of_deployed deployed] at here
  have there := (Chain.reports deployed later (provider, n)).1.history.subset here
  refine ⟨List.mem_filterMap.mpr ⟨entry, there, ?_⟩, deployed⟩
  rw [Entry.revealedEvent_eq, same]
  exact decoded

/-- No reveal comes before the request. -/
theorem Chain.RequestedIn.le_reveals (requested : chain.RequestedIn (provider, n) (previous + 1))
    (deployed : chain.deployedAt ≤ previous) (reveals : chain.RevealsIn provider n b event) :
    previous + 1 ≤ b := by
  by_contra early
  have member := (reveals.event_mem (Nat.le_of_lt_succ (Nat.lt_of_not_le early))).1
  have nothing : (chain.historyAt previous).filterMap (Entry.revealedEvent (provider, n)) = [] :=
    requested.unrevealed
  rw [Chain.historyAt_of_deployed deployed] at nothing
  unfold World.revealedEvents at member
  rw [nothing] at member
  cases member

/-- The events in a state were revealed in blocks up to it. -/
theorem Chain.RequestedIn.reveals_iff (requested : chain.RequestedIn (provider, n) (previous + 1))
    (later : previous + 1 ≤ b) :
    event ∈ (chain.atBlock b).revealedEvents (provider, n) ↔
      ∃ b' ≤ b, chain.RevealsIn provider n b' event := by
  constructor
  · intro member
    have logs := Chain.revealedLogs_events requested later
    rw [← List.mem_reverse, ← logs] at member
    obtain ⟨b', _, within, reveals⟩ := mem_revealedLogs.mp member
    exact ⟨b', within, reveals⟩
  · rintro ⟨b', within, reveals⟩
    exact (reveals.event_mem within).1

/-- **What the command prints.** In every run of the contract on every chain, for a transaction that is
executed in any block from the head on that was seen first, with any heads that the node answers
afterwards: when the command ends, its request was made under a number that was not used before; what
it prints is combined of the user's contribution and that of the provider in a `Revealed` event of this
number, and is one number however often it is printed; and it prints none exactly if none of the first
ten heads has such an event. -/
theorem generate_prints (injective : Function.Injective K.keccak256) (chain : Chain K)
    (signer : Signer) (provider : Address) (userRandomness : Bytes32) (firstHead previous : ℕ)
    (feeAt w : World Bytes32) (answers : List (Except RpcError ℕ)) (numbers : List Bytes32)
    (includes : chain.Includes
      (wrapperMessage signer provider userRandomness (getFeeV2 feeAt.state provider 0)) previous w)
    (later : firstHead ≤ previous + 1)
    (returned : generate chain signer provider userRandomness firstHead feeAt (some w) answers =
      .ok numbers) :
    ∃ n, ¬ w.Used (provider, n) ∧ chain.RequestedIn (provider, n) (previous + 1) ∧
      (∀ number ∈ numbers, ∃ head, .ok head ∈ answers.take 10 ∧
        ∃ event ∈ (chain.atBlock head).revealedEvents (provider, n),
          event.userContribution = userRandomness ∧
          number = generateCombinedRandomNumber K userRandomness event.providerContribution) ∧
      (∀ number ∈ numbers, ∀ other ∈ numbers, number = other) ∧
      (numbers = [] ↔ ∀ head, .ok head ∈ answers.take 10 → previous + 1 ≤ head →
        (chain.atBlock head).revealedEvents (provider, n) = []) := by
  obtain ⟨n, wrapped, polled⟩ := bind_ok.mp returned
  obtain ⟨w', started, reach', made⟩ := requestWithCallbackWrapper_made includes.reachable wrapped
  have requested := made.requestedIn includes started
  obtain ⟨printed, none_iff⟩ := pollReveals_spec (fun b event reveals =>
    Nat.le_trans later (requested.le_reveals includes.deployed reveals)) polled
  have honours : ∀ head, previous + 1 ≤ head →
      DiceProtocol.Honours K provider userRandomness n (chain.atBlock head) := by
    intro head after
    exact made.honours injective reach' (.trans _ (includes.after w' started)
      (Chain.blocks_reachable (Nat.le_succ_of_le includes.deployed) after))
  have told : ∀ number ∈ numbers, ∃ head, .ok head ∈ answers.take 10 ∧ previous + 1 ≤ head ∧
      ∃ event ∈ (chain.atBlock head).revealedEvents (provider, n),
        number = event.randomNumber := by
    intro number member
    obtain ⟨head, answered, b, within, event, reveals, rfl⟩ := printed number member
    have after := requested.le_reveals includes.deployed reveals
    exact ⟨head, answered, Nat.le_trans after within, event, (reveals.event_mem within).1, rfl⟩
  refine ⟨n, made.fresh, requested, fun number member => ?_, fun number member other member' => ?_,
    none_iff.trans ⟨fun none head answered after => ?_, fun none head answered b within event => ?_⟩⟩
  · obtain ⟨head, answered, after, event, here, rfl⟩ := told number member
    obtain ⟨user, combined⟩ := (honours head after).combined event here
    exact ⟨head, answered, event, here, user, combined⟩
  · -- both events are in the state of the later head
    obtain ⟨head, _, after, event, here, rfl⟩ := told number member
    obtain ⟨head', _, after', event', here', rfl⟩ := told other member'
    have deployed := Nat.le_succ_of_le includes.deployed
    have grown : ∀ {a}, previous + 1 ≤ a → a ≤ max head head' →
        (chain.atBlock a).revealedEvents (provider, n) ⊆
          (chain.atBlock (max head head')).revealedEvents (provider, n) := fun after le =>
      (((Chain.reports (Nat.le_trans deployed after) le (provider, n)).1.history).filterMap
        _).subset
    have both := honours (max head head') (Nat.le_trans after (Nat.le_max_left _ _))
    have first := grown after (Nat.le_max_left _ _) here
    have second := grown after' (Nat.le_max_right _ _) here'
    have published := (Chain.block_reachable (Nat.le_trans deployed
      (Nat.le_trans after (Nat.le_max_left head head')))).published injective (provider, n)
    rw [(both.combined event first).2, (both.combined event' second).2,
      published.agree event first event' second]
  · rw [List.eq_nil_iff_forall_not_mem]
    intro event member
    obtain ⟨b, within, reveals⟩ := (requested.reveals_iff after).mp member
    exact none head answered b within event reveals
  · intro reveals
    have after := Nat.le_trans (requested.le_reveals includes.deployed reveals) within
    have member := (reveals.event_mem within).1
    rw [none head answered after] at member
    cases member

end Runs

namespace Sample

/-- The state in which block 101 begins. -/
def block101 : World Sym := mine blockMined world

/-- The request of the user, sent by the command. -/
def generateMessage : Message Sym :=
  wrapperMessage wallet provider (contribution 1)
    (getFeeV2 (succeededCallback.atBlock 100).state provider 0)

theorem generate_included : succeededCallback.Includes generateMessage 100 block101 where
  deployed := Nat.le_refl 100
  before := .refl
  after w' started := by
    have made : start symbolic generateMessage block101 = .done (firstBlock [request 1]).world := rfl
    rw [made] at started
    cases started
    have run : (dice symbolic).Reachable anyCall ⟨(firstBlock [request 1]).world, []⟩
        ((dice symbolic).run ⟨(firstBlock [request 1]).world, []⟩ [reveal 1, succeed]) :=
      .of_actions _ _
    exact run

end Sample

theorem generate_prints_succeeded :
    ∃ numbers, generate Sample.succeededCallback Sample.wallet Sample.provider
        (Sample.contribution 1) 100 (Sample.succeededCallback.atBlock 100) (some Sample.block101)
          [.ok 101] = .ok numbers ∧
      ∀ number ∈ numbers, ∀ other ∈ numbers, number = other := by
  obtain ⟨numbers, returned⟩ := Sample.exists_of_isOk (x := generate Sample.succeededCallback
    Sample.wallet Sample.provider (Sample.contribution 1) 100
      (Sample.succeededCallback.atBlock 100) (some Sample.block101) [.ok 101]) (by decide +kernel)
  obtain ⟨_, _, _, _, one, _⟩ := generate_prints symbolic_injective Sample.succeededCallback
    Sample.wallet Sample.provider (Sample.contribution 1) 100 100
      (Sample.succeededCallback.atBlock 100) Sample.block101 [.ok 101] numbers
        Sample.generate_included (by decide) returned
  exact ⟨numbers, returned, one⟩

end Dice
