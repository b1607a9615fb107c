/-
**The keeper of one chain, as a machine.**

A watcher sends ranges of blocks over a channel. Two scanners work at the same time: one on the
backlog of the start, one on the ranges as they arrive. A scanner goes over a range once as it is and
once for each configured delay, batch by batch. The events that a batch returns are entered into a set
of handled sequence numbers that both share, one at a time, and for each number that is new there a
task is spawned.

* `Keeper.step` — one step: the watcher observes something, a range is received, a batch is fetched or
  given up, an event is entered, a task ends.
* `Keeper.Effect` — everything that a step can do.
* `Keeper.Reaches.preserves` — the rule for runs.

What a task does is not part of this machine: it may end at any time. Beside the state of the code a
keeper has the batches that were fetched and given up, and the tasks that were spawned.
-/

import Mathlib.Data.Finset.Basic
import Mathlib.Data.List.Infix
import Dice.Service.Watchers

set_option linter.unusedSectionVars false

namespace Dice

open ClosedInterval (covered Gapless)

/-- `MAX_RPC_RETRIES`. -/
def maxRpcRetries : ℕ := 10

/-- `CACHE_RETENTION_WINDOW`. -/
def cacheRetentionWindow : ℕ := 10000

/-- `RequestedV2Event`, as far as the keeper reads it. -/
structure RequestedEvent where
  sequenceNumber : ℕ
  blockNumber : ℕ
  deriving DecidableEq, Repr

/-- What the keeper of a chain reads of its configuration. -/
structure KeeperConfig where
  /-- Whether `ws_rpc_addr` is set. -/
  ws : Bool
  revealDelayBlocks : ℕ
  blockDelays : List ℕ
  backlogRange : ℕ
  /-- Whether there is a fallback contract. -/
  fallback : Bool
  deriving DecidableEq, Repr

/-- A range as it is, and once for each delay. -/
def KeeperConfig.passes (config : KeeperConfig) (range : BlockRange) : List BlockRange :=
  range :: config.blockDelays.map fun delay => ⟨range.first - delay, range.last - delay⟩

/-- The range of the backlog. -/
def KeeperConfig.backlog (config : KeeperConfig) (latestSafeBlock : ℕ) : BlockRange :=
  ⟨latestSafeBlock - config.backlogRange, latestSafeBlock⟩

/-! ### Fetching a batch -/

/-- `is_rate_limit_error`. -/
def isRateLimitError (err : List Char) : Bool :=
  ["429", "Too Many Requests", "rate.?limit", "i/o timeout", "connection refused"].any
    fun text => decide (text.toList <:+: err)

/-- One attempt at fetching the events of a batch: what the node answers, and what the fallback node
answers if it is asked. -/
structure Attempt where
  primary : Except (List Char) (List RequestedEvent)
  fallback : Except (List Char) (List RequestedEvent)

/-- The result of an attempt. -/
def Attempt.result (fallback : Bool) (attempt : Attempt) :
    Except (List Char) (List RequestedEvent) :=
  match attempt.primary with
  | .ok events => .ok events
  | .error err => if isRateLimitError err && fallback then attempt.fallback else .error err

/-- The loop of `process_single_block_batch`: the events of the first attempt that succeeds, or none
when the batch is given up. -/
def fetchEvents (fallback : Bool) (attempts : ℕ → Attempt) : Option (List RequestedEvent) :=
  (List.range maxRpcRetries).findSome? fun attempt => ((attempts attempt).result fallback).toOption

/-- The sequence number from which on the cache is kept. -/
def retentionFloor (events : List RequestedEvent) : Option ℕ :=
  (events.map RequestedEvent.sequenceNumber).max?.map fun maxSeq => maxSeq - cacheRetentionWindow

/-- The pruning of `fulfilled_requests_cache`. -/
def pruneCache (cache : Finset ℕ) (events : List RequestedEvent) : Finset ℕ :=
  match retentionFloor events with
  | none => cache
  | some floor => cache.filter fun seq => floor ≤ seq

/-! ### The machine -/

/-- The two scanners. -/
inductive Worker where
  | backlog
  | live
  deriving DecidableEq, Repr

/-- What a scanner has left: of the first pass the blocks from `current_block` on, the passes after
it, and the events of the last batch that are not entered yet. -/
structure Scanner where
  passes : List BlockRange
  events : List RequestedEvent
  deriving DecidableEq, Repr

/-- The state of the keeper, and what it has done. -/
structure Keeper where
  phase : WsPhase
  /-- Its ranges are those in the channel. -/
  watcher : Watcher
  /-- The ranges that the live scanner has received, the last one first. -/
  received : List BlockRange
  scanner : Worker → Scanner
  fulfilledRequestsCache : Finset ℕ
  /-- The tasks that are alive. -/
  tasks : List RequestedEvent
  fetched : List (BlockRange × List RequestedEvent)
  givenUp : List BlockRange
  spawned : List RequestedEvent

/-- What can happen next. -/
inductive KeeperAction where
  | poll (attempts : ℕ → Option UInt64)
  | ws (event : WsEvent)
  | receive
  | fetch (worker : Worker) (attempts : ℕ → Attempt)
  | endPass (worker : Worker)
  | insert (worker : Worker)
  | finish (event : RequestedEvent)

namespace Keeper

/-- `run_keeper_threads`. -/
def start (config : KeeperConfig) (latestSafeBlock : UInt64) : Keeper where
  phase := .connecting
  watcher := .new latestSafeBlock
  received := []
  scanner
    | .backlog => ⟨config.passes (config.backlog latestSafeBlock.toNat), []⟩
    | .live => ⟨[], []⟩
  fulfilledRequestsCache := ∅
  tasks := []
  fetched := []
  givenUp := []
  spawned := []

def setScanner (k : Keeper) (worker : Worker) (scanner : Scanner) : Keeper :=
  { k with scanner := Function.update k.scanner worker scanner }

/-- A batch is fetched. -/
def fetch (k : Keeper) (worker : Worker) (batch : BlockRange) (passes : List BlockRange)
    (events : List RequestedEvent) : Keeper :=
  { k.setScanner worker ⟨passes, events⟩ with
    fulfilledRequestsCache := pruneCache k.fulfilledRequestsCache events
    fetched := (batch, events) :: k.fetched }

/-- A batch is given up. -/
def giveUp (k : Keeper) (worker : Worker) (batch : BlockRange) (passes : List BlockRange) : Keeper :=
  { k.setScanner worker ⟨passes, []⟩ with givenUp := batch :: k.givenUp }

/-- A task is spawned for an event whose number is new in the cache. -/
def spawn (k : Keeper) (event : RequestedEvent) : Keeper :=
  { k with
    fulfilledRequestsCache := insert event.sequenceNumber k.fulfilledRequestsCache
    tasks := event :: k.tasks
    spawned := event :: k.spawned }

/-- One step. An action that is not enabled changes nothing. -/
def step (config : KeeperConfig) (k : Keeper) : KeeperAction → Keeper
  | .poll attempts =>
      if config.ws then k
      else { k with watcher := watchBlocks true config.revealDelayBlocks k.watcher attempts }
  | .ws event =>
      if config.ws then
        let (phase, watcher) :=
          watchBlocksWs true config.revealDelayBlocks (k.phase, k.watcher) event
        { k with phase, watcher }
      else k
  | .receive =>
      match k.scanner .live, k.watcher.sent.getLast? with
      | ⟨[], []⟩, some range =>
          { k.setScanner .live ⟨config.passes range, []⟩ with
            watcher := { k.watcher with sent := k.watcher.sent.dropLast }
            received := range :: k.received }
      | _, _ => k
  | .fetch worker attempts =>
      match k.scanner worker with
      | ⟨⟨currentBlock, lastBlock⟩ :: later, []⟩ =>
          if currentBlock ≤ lastBlock then
            let batch := nextBatch currentBlock lastBlock
            let passes := ⟨U64.add batch.last 1, lastBlock⟩ :: later
            match fetchEvents config.fallback attempts with
            | some events => k.fetch worker batch passes events
            | none => k.giveUp worker batch passes
          else k
      | _ => k
  | .endPass worker =>
      match k.scanner worker with
      | ⟨⟨currentBlock, lastBlock⟩ :: later, []⟩ =>
          if currentBlock ≤ lastBlock then k else k.setScanner worker ⟨later, []⟩
      | _ => k
  | .insert worker =>
      match k.scanner worker with
      | ⟨passes, event :: events⟩ =>
          let k := k.setScanner worker ⟨passes, events⟩
          if event.sequenceNumber ∈ k.fulfilledRequestsCache then k else k.spawn event
      | _ => k
  | .finish event => { k with tasks := k.tasks.erase event }

/-- A run. -/
def run (config : KeeperConfig) (k : Keeper) (actions : List KeeperAction) : Keeper :=
  actions.foldl (step config) k

/-- A later time of a run. -/
def Reaches (config : KeeperConfig) (k k' : Keeper) : Prop := ∃ actions, k' = k.run config actions

/-! ### What a step can do -/

/-- **Everything that a step can do.** -/
inductive Effect (config : KeeperConfig) (k : Keeper) : KeeperAction → Keeper → Prop
  | idle (action : KeeperAction) : Effect config k action k
  | watched {action : KeeperAction} {phase : WsPhase} {watcher : Watcher} :
      k.watcher.Sends watcher → Effect config k action { k with phase, watcher }
  | received {range : BlockRange} {waiting : List BlockRange} : k.scanner .live = ⟨[], []⟩ →
      k.watcher.sent = waiting ++ [range] →
      Effect config k .receive { k.setScanner .live ⟨config.passes range, []⟩ with
        watcher := { k.watcher with sent := waiting }
        received := range :: k.received }
  | fetched {worker : Worker} {attempts : ℕ → Attempt} {currentBlock lastBlock : ℕ}
      {later : List BlockRange} {events : List RequestedEvent} :
      k.scanner worker = ⟨⟨currentBlock, lastBlock⟩ :: later, []⟩ → currentBlock ≤ lastBlock →
      fetchEvents config.fallback attempts = some events →
      Effect config k (.fetch worker attempts) (k.fetch worker (nextBatch currentBlock lastBlock)
        (⟨U64.add (nextBatch currentBlock lastBlock).last 1, lastBlock⟩ :: later) events)
  | givenUp {worker : Worker} {attempts : ℕ → Attempt} {currentBlock lastBlock : ℕ}
      {later : List BlockRange} :
      k.scanner worker = ⟨⟨currentBlock, lastBlock⟩ :: later, []⟩ → currentBlock ≤ lastBlock →
      Effect config k (.fetch worker attempts) (k.giveUp worker (nextBatch currentBlock lastBlock)
        (⟨U64.add (nextBatch currentBlock lastBlock).last 1, lastBlock⟩ :: later))
  | passed {worker : Worker} {currentBlock lastBlock : ℕ} {later : List BlockRange} :
      k.scanner worker = ⟨⟨currentBlock, lastBlock⟩ :: later, []⟩ → lastBlock < currentBlock →
      Effect config k (.endPass worker) (k.setScanner worker ⟨later, []⟩)
  | known {worker : Worker} {passes : List BlockRange} {event : RequestedEvent}
      {events : List RequestedEvent} : k.scanner worker = ⟨passes, event :: events⟩ →
      event.sequenceNumber ∈ k.fulfilledRequestsCache →
      Effect config k (.insert worker) (k.setScanner worker ⟨passes, events⟩)
  | spawned {worker : Worker} {passes : List BlockRange} {event : RequestedEvent}
      {events : List RequestedEvent} : k.scanner worker = ⟨passes, event :: events⟩ →
      event.sequenceNumber ∉ k.fulfilledRequestsCache →
      Effect config k (.insert worker) ((k.setScanner worker ⟨passes, events⟩).spawn event)
  | finished {event : RequestedEvent} :
      Effect config k (.finish event) { k with tasks := k.tasks.erase event }

variable {config : KeeperConfig} {k k' : Keeper}

theorem step_effect (action : KeeperAction) : Effect config k action (k.step config action) := by
  cases action with
  | poll attempts =>
    simp only [step]
    split
    · exact .idle _
    · exact .watched (watchBlocks_sends attempts)
  | ws event =>
    simp only [step]
    split
    · exact .watched (watchBlocksWs_sends k.phase event)
    · exact .idle _
  | receive =>
    simp only [step]
    split
    · next range idle last =>
      obtain ⟨waiting, sent⟩ := List.getLast?_eq_some_iff.mp last
      have dropped : k.watcher.sent.dropLast = waiting := by
        rw [sent, List.dropLast_concat]
      rw [dropped]
      exact .received idle sent
    · exact .idle _
  | fetch worker attempts =>
    simp only [step]
    split
    · next currentBlock lastBlock later scanning =>
      split
      · next left =>
        split
        · next events found => exact .fetched scanning left found
        · exact .givenUp scanning left
      · exact .idle _
    · exact .idle _
  | endPass worker =>
    simp only [step]
    split
    · next currentBlock lastBlock later scanning =>
      split
      · exact .idle _
      · next done => exact .passed scanning (Nat.lt_of_not_le done)
    · exact .idle _
  | insert worker =>
    simp only [step]
    split
    · next passes event events entering =>
      split
      · next known => exact .known entering known
      · next unknown => exact .spawned entering unknown
    · exact .idle _
  | finish event => exact .finished

/-- One scanner is replaced, and the other stays. -/
theorem forall_scanner (p : Scanner → Prop) {worker : Worker} {scanner : Scanner}
    (replaced : k'.scanner = Function.update k.scanner worker scanner) (here : p scanner)
    (others : ∀ worker, p (k.scanner worker)) (other : Worker) : p (k'.scanner other) := by
  rw [replaced]
  by_cases same : other = worker
  · rw [same, Function.update_self]
    exact here
  · rw [Function.update_of_ne same]
    exact others other

/-- Where the passes of a scanner end: the one that is scanned, and those after it. -/
theorem passes_of_scanning (p : ℕ → Prop) {worker : Worker} {currentBlock lastBlock : ℕ}
    {later : List BlockRange} (scanning : k.scanner worker = ⟨⟨currentBlock, lastBlock⟩ :: later, []⟩)
    (all : ∀ pass ∈ (k.scanner worker).passes, p pass.last) :
    p lastBlock ∧ ∀ pass ∈ later, p pass.last := by
  rw [scanning] at all
  exact List.forall_mem_cons.mp all

/-- **What every step preserves, a run preserves.** -/
theorem Reaches.preserves {P : Keeper → Prop}
    (preserved : ∀ {k action k'}, P k → Effect config k action k' → P k')
    (reaches : Reaches config k k') (holds : P k) : P k' := by
  obtain ⟨actions, rfl⟩ := reaches
  induction actions generalizing k with
  | nil => exact holds
  | cons action rest ih => exact ih (preserved holds (step_effect action))

theorem reaches_run (config : KeeperConfig) (k : Keeper) (actions : List KeeperAction) :
    Reaches config k (k.run config actions) := ⟨actions, rfl⟩

theorem Reaches.trans {k'' : Keeper} (first : Reaches config k k') (second : Reaches config k' k'') :
    Reaches config k k'' := by
  obtain ⟨actions, rfl⟩ := first
  obtain ⟨actions', rfl⟩ := second
  exact ⟨actions ++ actions', (List.foldl_append ..).symm⟩

end Keeper

end Dice
