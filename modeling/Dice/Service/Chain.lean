/-
**The contract on a chain of blocks, as the RPC answers show it.**

* `Chain` — the world after each block; the transactions of a block are a run of the contract.
* `Chain.logs` — what `eth_getLogs` returns for a range of blocks, oldest first.
* `logs_events` — the logs up to a block are the events in the history of its world.
* `getRequestV2_eq`, `revealedLogs_events` — the two queries of the service about one request read the
  request table, and all the `Revealed` events of the request.
* `Numbered` — `block.number` is the number of the block; then a stored request tells the block in
  which it was made (`Numbered.requestedIn`).

Blocks before the deployment have no logs. There are no reorganisations.
-/

import Mathlib.Data.Nat.Init
import Dice.Contract.Dates
import Dice.Contract.Rotations

set_option linter.unusedSectionVars false

namespace Dice

variable {Bytes32 : Type}

/-- `LogMeta`, as far as it is used. -/
structure LogMeta (Bytes32 : Type) where
  blockNumber : ℕ
  transactionHash : Bytes32
  deriving DecidableEq, Repr

/-- The event of an entry of the history. -/
def Entry.event : Entry Bytes32 → Option (Event Bytes32)
  | .emitted event => some event
  | _ => none

/-- The `Revealed` events among events are read from them alone. -/
theorem Entry.revealedEvent_eq (key : RequestKey) (entry : Entry Bytes32) :
    entry.revealedEvent key = entry.event.bind fun event =>
      Entry.revealedEvent key (.emitted event) := by
  cases entry <;> rfl

variable (K : Keccak Bytes32) [DecidableEq Bytes32]

/-- `get_request_v2`: the record that `getRequestV2` of the contract returns, unless its sequence number
is zero. -/
def getRequestV2 (w : World Bytes32) (provider : Address) (sequenceNumber : ℕ) :
    Option (Request Bytes32) :=
  let request := w.state.read (findRequest K w.state provider sequenceNumber)
  if request.sequenceNumber = 0 then none else some request

/-- **A chain of blocks** with the contract on it. -/
structure Chain where
  deployedAt : ℕ
  /-- The contract after a block. -/
  atBlock : ℕ → World Bytes32
  /-- How `block.number` and `blockhash` change when a block begins. -/
  mined : ℕ → Mined Bytes32
  /-- The transaction of a log of a block. -/
  transactionHash : ℕ → ℕ → Bytes32
  deployed : Reachable K anyCall ⟨atBlock deployedAt, []⟩
  next : ∀ b, deployedAt ≤ b →
    (dice K).Reachable anyCall ⟨mine (mined (b + 1)) (atBlock b), []⟩ ⟨atBlock (b + 1), []⟩

namespace Chain

variable {K} (chain : Chain K)

/-- The history of the contract up to a block. -/
def historyAt (b : ℕ) : List (Entry Bytes32) :=
  if b < chain.deployedAt then [] else (chain.atBlock b).history

/-- The history before a block. -/
def historyBefore : ℕ → List (Entry Bytes32)
  | 0 => []
  | b + 1 => chain.historyAt b

/-- What a block adds to the history, newest first. -/
def newEntries (b : ℕ) : List (Entry Bytes32) :=
  (chain.historyAt b).take ((chain.historyAt b).length - (chain.historyBefore b).length)

/-- The logs of a block, oldest first. -/
def logsIn (b : ℕ) : List (Event Bytes32 × LogMeta Bytes32) :=
  ((chain.newEntries b).reverse.filterMap Entry.event).zipIdx.map fun (event, index) =>
    (event, ⟨b, chain.transactionHash b index⟩)

/-- `eth_getLogs` for the address of the contract and a range of blocks. -/
def logs (first last : ℕ) : List (Event Bytes32 × LogMeta Bytes32) :=
  (List.range' first (last + 1 - first)).flatMap chain.logsIn

/-- The query of `get_revealed_event` up to the block `last`: the `Revealed` logs with the topics
`provider` and `sequenceNumber`. -/
def revealedLogs (provider : Address) (sequenceNumber first last : ℕ) :
    List (RevealedFilter Bytes32 × LogMeta Bytes32) :=
  (chain.logs first last).filterMap fun (event, logMeta) =>
    (Entry.revealedEvent (provider, sequenceNumber) (.emitted event)).map fun revealed =>
      (revealed, logMeta)

/-- The request was made in a block. -/
def RequestedIn (key : RequestKey) (b : ℕ) : Prop :=
  ∃ log ∈ chain.logsIn b, Entry.requests key (.emitted log.1) = true

variable {chain} {b b' first last : ℕ} {key : RequestKey}

/-! ### Runs -/

theorem block_reachable (deployed : chain.deployedAt ≤ b) :
    Reachable K anyCall ⟨chain.atBlock b, []⟩ := by
  induction b, deployed using Nat.le_induction with
  | base => exact chain.deployed
  | succ b deployed ih =>
    obtain ⟨d, w, created, run⟩ := ih.step K (.idle (chain.mined (b + 1))) trivial
    exact ⟨d, w, created, .trans _ run (chain.next b deployed)⟩

theorem blocks_reachable (deployed : chain.deployedAt ≤ b) (later : b ≤ b') :
    (dice K).Reachable anyCall ⟨chain.atBlock b, []⟩ ⟨chain.atBlock b', []⟩ := by
  induction b', later using Nat.le_induction with
  | base => exact .refl
  | succ b' later ih =>
    exact .trans _ (.step (.idle (chain.mined (b' + 1))) ih trivial)
      (chain.next b' (Nat.le_trans deployed later))

/-- What changes from block to block. -/
theorem reports (deployed : chain.deployedAt ≤ b) (later : b ≤ b') (key : RequestKey) :
    Evolves K (chain.atBlock b) (chain.atBlock b') ∧
      Reports K (chain.atBlock b) (chain.atBlock b') key :=
  (block_reachable deployed).reports (blocks_reachable deployed later) rfl rfl key

/-! ### Logs -/

theorem historyAt_suffix (b : ℕ) : chain.historyAt b <:+ chain.historyAt (b + 1) := by
  unfold historyAt
  by_cases early : b < chain.deployedAt
  · rw [if_pos early]
    exact List.nil_suffix
  · rw [if_neg early, if_neg (by omega)]
    exact (reports (Nat.le_of_not_lt early) (Nat.le_succ b) (0, 0)).1.history

theorem historyBefore_suffix (b : ℕ) : chain.historyBefore b <:+ chain.historyAt b := by
  cases b with
  | zero => exact List.nil_suffix
  | succ b => exact historyAt_suffix b

theorem newEntries_append (b : ℕ) :
    chain.newEntries b ++ chain.historyBefore b = chain.historyAt b := by
  obtain ⟨new, split⟩ := chain.historyBefore_suffix b
  unfold newEntries
  rw [← split, List.length_append, Nat.add_sub_cancel, List.take_left]

theorem logsIn_events (b : ℕ) :
    (chain.logsIn b).map Prod.fst = (chain.newEntries b).reverse.filterMap Entry.event := by
  unfold logsIn
  rw [List.map_map]
  exact List.zipIdx_map_fst _ _

theorem logsIn_blockNumber {log : Event Bytes32 × LogMeta Bytes32} (member : log ∈ chain.logsIn b) :
    log.2.blockNumber = b := by
  obtain ⟨⟨_, _⟩, _, rfl⟩ := List.mem_map.mp member
  rfl

/-- A log in a range of blocks is one of its block. -/
theorem mem_logs {log : Event Bytes32 × LogMeta Bytes32} :
    log ∈ chain.logs first last ↔
      first ≤ log.2.blockNumber ∧ log.2.blockNumber ≤ last ∧
        log ∈ chain.logsIn log.2.blockNumber := by
  unfold logs
  rw [List.mem_flatMap]
  constructor
  · rintro ⟨b, inside, member⟩
    rw [List.mem_range'_1] at inside
    rw [logsIn_blockNumber member]
    exact ⟨inside.1, by omega, member⟩
  · rintro ⟨lower, upper, member⟩
    exact ⟨_, List.mem_range'_1.mpr ⟨lower, by omega⟩, member⟩

/-- **The logs of a range** are the events that its blocks add to the history. -/
theorem logs_events (inside : first ≤ last) :
    ((chain.logs first last).map Prod.fst).reverse ++
        (chain.historyBefore first).filterMap Entry.event =
      (chain.historyAt last).filterMap Entry.event := by
  induction last, inside using Nat.le_induction with
  | base =>
    have one : chain.logs first first = chain.logsIn first := by
      unfold logs
      rw [Nat.add_sub_cancel_left]
      exact List.append_nil _
    rw [one, logsIn_events, ← List.filterMap_reverse, List.reverse_reverse, ← List.filterMap_append,
      newEntries_append]
  | succ last inside ih =>
    have more : chain.logs first (last + 1) = chain.logs first last ++ chain.logsIn (last + 1) := by
      unfold logs
      rw [show last + 1 + 1 - first = (last + 1 - first) + 1 by omega, List.range'_1_concat,
        List.flatMap_append, show first + (last + 1 - first) = last + 1 by omega]
      exact congrArg _ (List.append_nil _)
    rw [more, List.map_append, List.reverse_append, List.append_assoc, ih, logsIn_events,
      ← List.filterMap_reverse, List.reverse_reverse, ← List.filterMap_append]
    exact congrArg _ (newEntries_append (last + 1))

/-! ### The request -/

theorem historyAt_of_deployed (deployed : chain.deployedAt ≤ b) :
    chain.historyAt b = (chain.atBlock b).history :=
  if_neg (Nat.not_lt.mpr deployed)

/-- A request is made by an entry of its block. -/
theorem RequestedIn.entry (requested : chain.RequestedIn key b) :
    ∃ entry ∈ chain.newEntries b, Entry.requests key entry = true := by
  obtain ⟨log, member, requests⟩ := requested
  have event : log.1 ∈ (chain.logsIn b).map Prod.fst := List.mem_map_of_mem member
  rw [logsIn_events] at event
  obtain ⟨entry, new, same⟩ := List.mem_filterMap.mp event
  cases entry with
  | emitted event =>
    cases same
    exact ⟨_, List.mem_reverse.mp new, requests⟩
  | _ => cases same

theorem RequestedIn.deployed (requested : chain.RequestedIn key b) : chain.deployedAt ≤ b := by
  obtain ⟨entry, new, _⟩ := requested.entry
  by_contra early
  have none_new : chain.newEntries b = [] := by
    unfold newEntries historyAt
    rw [if_pos (Nat.lt_of_not_le early)]
    exact List.take_nil
  rw [none_new] at new
  cases new

/-- Once made, a request stays on record. -/
theorem RequestedIn.made (requested : chain.RequestedIn key b) (later : b ≤ b') :
    (chain.atBlock b').requests key ≠ [] := by
  obtain ⟨entry, new, requests⟩ := requested.entry
  have here : entry ∈ chain.historyAt b := by
    rw [← newEntries_append]
    exact List.mem_append_left _ new
  rw [historyAt_of_deployed requested.deployed] at here
  have there := (reports requested.deployed later key).1.history.subset here
  exact List.ne_nil_of_mem (List.mem_filter.mpr ⟨there, requests⟩)

/-- Before its block a request has no `Revealed` events. -/
theorem RequestedIn.unrevealed (requested : chain.RequestedIn key b) :
    (chain.historyBefore b).filterMap (Entry.revealedEvent key) = [] := by
  cases b with
  | zero => rfl
  | succ b =>
    show (chain.historyAt b).filterMap (Entry.revealedEvent key) = []
    by_cases early : b < chain.deployedAt
    · unfold historyAt
      rw [if_pos early]
      rfl
    · have deployed := Nat.le_of_not_lt early
      rw [historyAt_of_deployed deployed]
      apply And.left ((block_reachable deployed).reported key |>.unused _)
      -- a used number is not requested again
      intro used
      obtain ⟨entry, new, requests⟩ := requested.entry
      have same := (reports deployed (Nat.le_succ b) key).2.requests used
      have split := chain.newEntries_append (b + 1)
      rw [historyAt_of_deployed requested.deployed] at split
      unfold World.requests at same
      rw [← split, List.filter_append] at same
      have before : chain.historyBefore (b + 1) = (chain.atBlock b).history :=
        historyAt_of_deployed deployed
      rw [before, List.append_left_eq_self] at same
      exact absurd requests (List.filter_eq_nil_iff.mp same entry new)

/-- **All `Revealed` events of a request** are found from its block on. -/
theorem revealedLogs_events {provider : Address} {n : ℕ}
    (requested : chain.RequestedIn (provider, n) first) (inside : first ≤ last) :
    (chain.revealedLogs provider n first last).map Prod.fst =
      ((chain.atBlock last).revealedEvents (provider, n)).reverse := by
  have read : ∀ entries : List (Entry Bytes32),
      (entries.filterMap Entry.event).filterMap (fun event =>
        Entry.revealedEvent (provider, n) (.emitted event)) =
        entries.filterMap (Entry.revealedEvent (provider, n)) := by
    intro entries
    rw [List.filterMap_filterMap]
    exact List.filterMap_congr fun entry _ => (Entry.revealedEvent_eq _ entry).symm
  have decoded : (chain.revealedLogs provider n first last).map Prod.fst =
      ((chain.logs first last).map Prod.fst).filterMap fun event =>
        Entry.revealedEvent (provider, n) (.emitted event) := by
    unfold revealedLogs
    rw [List.map_filterMap, List.filterMap_map]
    refine List.filterMap_congr fun log _ => ?_
    show Option.map _ (Option.map _ _) = _
    rw [Option.map_map]
    exact Option.map_id'
  have whole : ((chain.logs first last).map Prod.fst).reverse ++ _ = _ := logs_events inside
  have events := congrArg (List.filterMap fun event =>
    Entry.revealedEvent (provider, n) (.emitted event)) whole
  rw [List.filterMap_append, read, read, requested.unrevealed, List.append_nil,
    List.filterMap_reverse, ← decoded,
    historyAt_of_deployed (Nat.le_trans requested.deployed inside)] at events
  rw [← List.reverse_reverse ((chain.revealedLogs provider n first last).map Prod.fst), events]
  rfl

/-! ### The block of a request -/

/-- The converse of `RequestedIn.entry`. -/
theorem RequestedIn.of_entry {entry : Entry Bytes32} (new : entry ∈ chain.newEntries b)
    (requests : Entry.requests key entry = true) : chain.RequestedIn key b := by
  cases entry with
  | emitted event =>
    have logged : event ∈ (chain.logsIn b).map Prod.fst := by
      rw [logsIn_events]
      exact List.mem_filterMap.mpr ⟨_, List.mem_reverse.mpr new, rfl⟩
    obtain ⟨log, member, rfl⟩ := List.mem_map.mp logged
    exact ⟨log, member, requests⟩
  | _ => cases requests

/-- Every entry is one of some block. -/
theorem exists_newEntries {entry : Entry Bytes32} (member : entry ∈ chain.historyAt b) :
    ∃ b' ≤ b, entry ∈ chain.newEntries b' := by
  induction b with
  | zero =>
    rw [← newEntries_append] at member
    exact ⟨0, Nat.le_refl 0, (List.mem_append.mp member).resolve_right List.not_mem_nil⟩
  | succ b ih =>
    rw [← newEntries_append] at member
    rcases List.mem_append.mp member with new | old
    · exact ⟨b + 1, Nat.le_refl _, new⟩
    · obtain ⟨b', le, new⟩ := ih old
      exact ⟨b', Nat.le_succ_of_le le, new⟩

/-- A request that is on record was made in some block. -/
theorem requestedIn_of_made (deployed : chain.deployedAt ≤ b)
    (made : (chain.atBlock b).requests key ≠ []) : ∃ b' ≤ b, chain.RequestedIn key b' := by
  obtain ⟨entry, member⟩ := List.exists_mem_of_ne_nil _ made
  obtain ⟨here, requests⟩ := List.mem_filter.mp member
  rw [← historyAt_of_deployed deployed] at here
  obtain ⟨b', le, new⟩ := exists_newEntries here
  exact ⟨b', le, .of_entry new requests⟩

/-- A request that is on record, and was not before the block, was made in the block. -/
theorem RequestedIn.of_first (deployed : chain.deployedAt ≤ b)
    (made : (chain.atBlock b).requests key ≠ [])
    (first : ∀ entry ∈ chain.historyBefore b, Entry.requests key entry = false) :
    chain.RequestedIn key b := by
  obtain ⟨entry, member⟩ := List.exists_mem_of_ne_nil _ made
  obtain ⟨here, requests⟩ := List.mem_filter.mp member
  rw [← historyAt_of_deployed deployed, ← newEntries_append] at here
  refine .of_entry ((List.mem_append.mp here).resolve_right fun old => ?_) requests
  rw [first entry old] at requests
  cases requests

/-- The last number that a provider assigned was requested, when there are two or more since the
current commitment. -/
theorem made_of_outstanding (deployed : chain.deployedAt ≤ b) {provider : Address}
    (outstanding : ((chain.atBlock b).state.providers provider).currentCommitmentSequenceNumber + 1 <
      ((chain.atBlock b).state.providers provider).sequenceNumber) :
    (chain.atBlock b).requests
      (provider, ((chain.atBlock b).state.providers provider).sequenceNumber - 1) ≠ [] := by
  have paced := (block_reachable deployed).inStep.paced provider
  obtain ⟨caller, u, gasLimit, made⟩ := paced.between
    (Nat.lt_sub_of_add_lt outstanding) (Nat.sub_one_lt (Nat.ne_of_gt (Nat.zero_lt_of_lt outstanding)))
  have here := currentRegistration_subset _ _ made
  exact List.ne_nil_of_mem (List.mem_filter.mpr ⟨here, by simp⟩)

/-- **The contract counts the blocks of the chain**: `block.number` is the number of the block from
the deployment on, and the deployment is not in the first block of all. -/
structure Numbered (chain : Chain K) : Prop where
  positive : 0 < chain.deployedAt
  deployed : ∃ d w, constructor K d = .ok w ∧ w.blockNumber = chain.deployedAt ∧
    (dice K).Reachable anyCall ⟨w, []⟩ ⟨chain.atBlock chain.deployedAt, []⟩
  mined : ∀ b, chain.deployedAt ≤ b → (chain.mined (b + 1)).blocks = 1
  blockNumber : ∀ b, chain.deployedAt ≤ b → (chain.atBlock b).blockNumber = b

/-- **A stored request tells its block.** -/
theorem Numbered.requestedIn (numbered : chain.Numbered) (deployed : chain.deployedAt ≤ b)
    {req : Request Bytes32} (found : (chain.atBlock b).state.lookup K key = some req) :
    chain.RequestedIn key req.blockNumber := by
  induction b, deployed using Nat.le_induction generalizing req with
  | base =>
    -- whatever is requested in the block of the deployment is requested after the deployment
    obtain ⟨d, w, created, number, run⟩ := numbered.deployed
    have origin : Reachable K anyCall ⟨w, []⟩ := ⟨d, w, created, .refl⟩
    have after := origin.after run rfl rfl
    have fresh : ¬ w.Used key := by
      intro used
      obtain ⟨_, before, _⟩ := after.request used found
      rw [constructor_lookup created] at before
      cases before
    obtain ⟨low, high⟩ := origin.date run rfl rfl fresh found
    have same : req.blockNumber = chain.deployedAt :=
      Nat.le_antisymm (numbered.blockNumber _ (Nat.le_refl _) ▸ high) (number ▸ low)
    have nothing : chain.historyBefore chain.deployedAt = [] := by
      obtain ⟨b, same⟩ := Nat.exists_eq_succ_of_ne_zero (Nat.ne_of_gt numbered.positive)
      rw [same]
      exact if_pos (by omega)
    rw [same]
    refine .of_first (Nat.le_refl _) (chain.deployed.dated.made found) fun entry old => ?_
    rw [nothing] at old
    cases old
  | succ b deployed ih =>
    have deployed' := Nat.le_succ_of_le deployed
    by_cases used : (chain.atBlock b).Used key
    · obtain ⟨req', before, same⟩ :=
        (reports deployed (Nat.le_succ b) key).1.toKeeps.request used found
      rw [same.blockNumber]
      exact ih before
    · -- it is requested in this block
      have reach := (block_reachable deployed).step K (.idle (chain.mined (b + 1))) trivial
      obtain ⟨low, high⟩ := reach.date (chain.next b deployed) rfl rfl used found
      have start : (chain.atBlock b).blockNumber + (chain.mined (b + 1)).blocks = b + 1 := by
        rw [numbered.blockNumber b deployed, numbered.mined b deployed]
      have stop : (chain.atBlock (b + 1)).blockNumber = b + 1 := numbered.blockNumber _ deployed'
      have same : req.blockNumber = b + 1 := Nat.le_antisymm (stop ▸ high) (start ▸ low)
      rw [same]
      refine .of_first deployed' ((block_reachable deployed').dated.made found) fun entry old => ?_
      -- an unused number was not requested before
      have none_made := ((block_reachable deployed).reported key |>.unused used).2
      have before : entry ∈ (chain.atBlock b).history := by
        rw [← historyAt_of_deployed deployed]
        exact old
      exact Bool.eq_false_iff.mpr fun requests =>
        List.filter_eq_nil_iff.mp none_made entry before requests

end Chain

/-- **`get_request_v2` reads the map.** -/
theorem getRequestV2_eq {K : Keccak Bytes32} {w : World Bytes32} (sound : Sound K w)
    (provider : Address) (n : ℕ) : getRequestV2 K w provider n = w.state.lookup K (provider, n) := by
  cases found : w.state.lookup K (provider, n) with
  | some req =>
    unfold getRequestV2
    have numbered := (Request.key_eq_some.mp (SlotTable.Scheme.lookup_key found)).2
    rw [read_findRequest found, if_neg (numbered.1 ▸ numbered.2)]
  | none =>
    refine if_pos ?_
    by_contra active
    -- an active record is one of the request that was asked for
    have live : (w.state.read (findRequest K w.state provider n)).key =
        some ((w.state.read (findRequest K w.state provider n)).provider,
          (w.state.read (findRequest K w.state provider n)).sequenceNumber) := if_neg active
    have own : ((w.state.read (findRequest K w.state provider n)).provider,
        (w.state.read (findRequest K w.state provider n)).sequenceNumber) = (provider, n) := by
      by_cases inSlot : (w.state.requests (requestKey K provider n).2).provider = provider ∧
          (w.state.requests (requestKey K provider n).2).sequenceNumber = n
      · have place : findRequest K w.state provider n = .slot (requestKey K provider n).2 :=
          if_pos inSlot
        rw [place]
        exact Prod.ext inSlot.1 inSlot.2
      · have place : findRequest K w.state provider n = .overflow (requestKey K provider n).1 :=
          if_neg inSlot
        rcases sound.wf.placed _ _ live with slot | overflow
        · rw [place] at slot
          cases slot
        · rw [place] at overflow ⊢
          have full : (requestScheme K).full (provider, n) = (requestScheme K).full _ :=
            SlotTable.Ref.overflow.inj overflow
          exact ((requestScheme K).full_injective full).symm
    rw [own] at live
    have present : w.state.lookup K (provider, n) = _ := SlotTable.Scheme.lookup_of_live sound.wf live
    rw [found] at present
    cases present

namespace Sample

/-- A block is mined. -/
def blockMined : Mined Sym := ⟨1, fun n => .atom n⟩

/-- What a block of transactions leaves after the deployment. -/
def firstBlock (transactions : List (Action Sym)) : Config Sym :=
  (dice symbolic).run ⟨mine blockMined world, []⟩ transactions

/-- The deployment, one block of transactions, and empty blocks. -/
def worldAfter (transactions : List (Action Sym)) : ℕ → World Sym
  | 0 => world
  | 1 => (firstBlock transactions).world
  | b + 2 => mine blockMined (worldAfter transactions (b + 1))

/-- The chain of the sample deployment, with transactions in block 101 alone. -/
def chain (transactions : List (Action Sym)) (closed : (firstBlock transactions).frames = []) :
    Chain symbolic where
  deployedAt := 100
  atBlock b := worldAfter transactions (b - 100)
  mined _ := blockMined
  transactionHash b index := .pair (.atom b) (.atom index)
  deployed := reachable []
  next := by
    intro b deployed
    obtain ⟨later, rfl⟩ := Nat.exists_eq_add_of_le deployed
    rw [Nat.add_assoc, Nat.add_sub_cancel_left, Nat.add_sub_cancel_left]
    cases later with
    | zero =>
      have run : (dice symbolic).Reachable anyCall ⟨mine blockMined world, []⟩
          (firstBlock transactions) := .of_actions _ transactions
      have whole : firstBlock transactions = ⟨(firstBlock transactions).world, []⟩ := by
        rw [← closed]
      exact whole ▸ run
    | succ later => exact .refl

end Sample

end Dice
