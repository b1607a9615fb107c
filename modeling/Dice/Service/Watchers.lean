/-
**The two watchers of the keeper, and the splitting of ranges into batches.**

A watcher has a cursor, the last block it has sent. It observes heads (a poll, the first block number
after a connection, a log, a heartbeat) and sends ranges of blocks over a channel.

* `watchBlocks` — one turn of the HTTP watcher; `watchBlocksWs` — one event of the WebSocket watcher.
* `Watcher.Sends` — the abstract view of both: a range that begins at most one after the cursor, and
  carries the cursor to its end.
* `processBlockRange` — the batches of a range.
* `ranges_without_gaps` — nothing behind the cursor is left out, and the batches of a range contain
  each of its blocks exactly once.

Heads and block numbers that come from outside are `u64` values; the cursor is a natural number, and
the additions and subtractions of the code are those of `U64` or saturating.
-/

import Dice.Library.Intervals
import Dice.Library.U64

set_option linter.unusedSectionVars false

namespace Dice

open ClosedInterval (covered Gapless Tiles)

/-- `BlockRange`, with its two fields `from` and `to`. -/
abbrev BlockRange := ClosedInterval ℕ

/-- `BLOCK_BATCH_SIZE`. -/
def blockBatchSize : ℕ := 100

/-- `RETRY_PREVIOUS_BLOCKS`. -/
def retryPreviousBlocks : ℕ := 20

/-- `MAX_SAFE_BLOCK_RETRIES`. -/
def maxSafeBlockRetries : ℕ := 20

/-- `REQUESTED_EVENT_TOPIC`. -/
def requestedEventTopic : ℕ :=
  0x209bbfee3369097c31c36ce42994bdcac394866c881f603fb6296f240d6c37db

/-! ### The watchers -/

/-- The cursor (`last_safe_block_processed`, or `last_safe_block`), and the ranges that were sent, the
last one first. -/
structure Watcher where
  cursor : ℕ
  sent : List BlockRange
  deriving DecidableEq, Repr

/-- A watcher before its first event. -/
def Watcher.new (latestSafeBlock : UInt64) : Watcher := ⟨latestSafeBlock.toNat, []⟩

/-- `get_latest_safe_block`: the answers of the node to the attempts at reading the head, of which the
first success counts. The subtraction is a plain one. -/
def getLatestSafeBlock (revealDelayBlocks : ℕ) (attempts : ℕ → Option UInt64) : Option ℕ :=
  ((List.range maxSafeBlockRetries).findSome? attempts).map fun latestConfirmedBlock =>
    U64.sub latestConfirmedBlock.toNat revealDelayBlocks

/-- `tx.send`, which fails when the receiver is gone. -/
def Watcher.send (alive : Bool) (w : Watcher) (range : BlockRange) : Watcher :=
  if alive then { w with sent := range :: w.sent } else w

/-- One turn of `watch_blocks`. -/
def watchBlocks (alive : Bool) (revealDelayBlocks : ℕ) (w : Watcher)
    (attempts : ℕ → Option UInt64) : Watcher :=
  match getLatestSafeBlock revealDelayBlocks attempts with
  | none => w
  | some latestSafeBlock =>
      if w.cursor < latestSafeBlock then
        let first := latestSafeBlock - retryPreviousBlocks
        let first := if w.cursor < first then w.cursor else first
        -- a range that cannot be sent is left for the next turn
        if alive then { w.send alive ⟨first, latestSafeBlock⟩ with cursor := latestSafeBlock }
        else w
      else w

/-- A log of the subscription. -/
structure Log where
  topics : List ℕ
  blockNumber : Option UInt64
  deriving DecidableEq, Repr

/-- The first topic is the one of `Requested`. -/
def Log.isRequested (log : Log) : Bool := log.topics.head? = some requestedEventTopic

/-- What can happen to the WebSocket watcher. -/
inductive WsEvent where
  | connectionFailed
  | connected (attempts : ℕ → Option UInt64) (subscribed : Bool)
  | log (log : Log)
  | streamEnded
  /-- No log in time: the answer of the probe, unless it fails or times out. -/
  | heartbeat (probe : Option UInt64)

/-- Before the event loop, or in it. -/
inductive WsPhase where
  | connecting
  | listening
  deriving DecidableEq, Repr

/-- The range from the cursor to a new safe block is sent, and the cursor moves there whether or not
it could be. -/
def Watcher.moveTo (alive : Bool) (w : Watcher) (latestSafeBlock : ℕ) : Watcher :=
  { w.send alive ⟨U64.add w.cursor 1, latestSafeBlock⟩ with cursor := latestSafeBlock }

/-- Gap recovery after a connection, and a heartbeat. -/
def Watcher.catchUp (alive : Bool) (w : Watcher) (latestSafeBlock : ℕ) : Watcher :=
  if w.cursor < latestSafeBlock then w.moveTo alive latestSafeBlock else w

/-- A log with its block number. -/
def Watcher.onLog (alive : Bool) (w : Watcher) (latestSafeBlock : ℕ) : Watcher :=
  if w.cursor < latestSafeBlock then w.moveTo alive latestSafeBlock
  else w.send alive ⟨latestSafeBlock, latestSafeBlock⟩

/-- One event of `watch_blocks_ws`. An event of the other phase changes nothing. -/
def watchBlocksWs (alive : Bool) (revealDelayBlocks : ℕ) :
    WsPhase × Watcher → WsEvent → WsPhase × Watcher
  | (.connecting, w), .connected attempts subscribed =>
      match getLatestSafeBlock revealDelayBlocks attempts with
      | none => (.connecting, w)
      | some currentBlock =>
          (if subscribed then .listening else .connecting, w.catchUp alive currentBlock)
  | (.listening, w), .log log =>
      if log.isRequested then
        match log.blockNumber with
        | none => (.listening, w)
        | some bn => (.listening, w.onLog alive (bn.toNat - revealDelayBlocks))
      else (.listening, w)
  | (.listening, w), .streamEnded => (.connecting, w)
  | (.listening, w), .heartbeat probe =>
      match probe with
      | none => (.connecting, w)
      | some blockNum => (.listening, w.catchUp alive (blockNum.toNat - revealDelayBlocks))
  | (phase, w), _ => (phase, w)

/-! ### The cursor -/

/-- **What a watcher does to a live channel**: nothing, or it sends one range that begins at most one
after the cursor, and moves the cursor to its end if that is further up. -/
inductive Watcher.Sends (w : Watcher) : Watcher → Prop
  | nothing : Sends w w
  | range (range : BlockRange) : range.first ≤ w.cursor + 1 →
      Sends w ⟨max w.cursor range.last, range :: w.sent⟩

section Cursor

variable {w w' : Watcher} {revealDelayBlocks latestSafeBlock initial : ℕ}

theorem Watcher.Sends.up (sends : w.Sends w') : w.cursor ≤ w'.cursor := by
  cases sends with
  | nothing => exact le_rfl
  | range _ _ => exact le_max_left _ _

/-- A range that ends above the cursor. -/
theorem Watcher.Sends.ahead {first : ℕ} (next : first ≤ w.cursor + 1)
    (ahead : w.cursor < latestSafeBlock) :
    w.Sends ⟨latestSafeBlock, ⟨first, latestSafeBlock⟩ :: w.sent⟩ := by
  have sends : w.Sends ⟨max w.cursor latestSafeBlock, ⟨first, latestSafeBlock⟩ :: w.sent⟩ :=
    .range ⟨first, latestSafeBlock⟩ next
  rwa [max_eq_right ahead.le] at sends

/-- Safe blocks are `u64` values. -/
theorem getLatestSafeBlock_lt {attempts : ℕ → Option UInt64}
    (found : getLatestSafeBlock revealDelayBlocks attempts = some latestSafeBlock) :
    latestSafeBlock < U64.size := by
  obtain ⟨head, _, rfl⟩ := Option.map_eq_some_iff.mp found
  exact U64.sub_lt _ _

/-- A `u64` value less a delay. -/
theorem saturating_lt (head : UInt64) (delay : ℕ) : head.toNat - delay < U64.size :=
  lt_of_le_of_lt (Nat.sub_le _ _) head.toNat_lt

theorem watchBlocks_sends (attempts : ℕ → Option UInt64) :
    w.Sends (watchBlocks true revealDelayBlocks w attempts) := by
  unfold watchBlocks
  split
  · exact .nothing
  · next latestSafeBlock _ =>
    by_cases ahead : w.cursor < latestSafeBlock
    · rw [if_pos ahead]
      -- the overlap never lets the range begin after the cursor
      apply Watcher.Sends.ahead _ ahead
      split <;> omega
    · rw [if_neg ahead]
      exact .nothing

theorem Watcher.moveTo_sends (ahead : w.cursor < latestSafeBlock)
    (small : latestSafeBlock < U64.size) : w.Sends (w.moveTo true latestSafeBlock) := by
  apply Watcher.Sends.ahead _ ahead
  rw [U64.add_of_lt (lt_of_le_of_lt ahead small)]

theorem Watcher.catchUp_sends (small : latestSafeBlock < U64.size) :
    w.Sends (w.catchUp true latestSafeBlock) := by
  unfold Watcher.catchUp
  split
  · next ahead => exact w.moveTo_sends ahead small
  · exact .nothing

theorem Watcher.onLog_sends (small : latestSafeBlock < U64.size) :
    w.Sends (w.onLog true latestSafeBlock) := by
  unfold Watcher.onLog
  by_cases ahead : w.cursor < latestSafeBlock
  · rw [if_pos ahead]
    exact w.moveTo_sends ahead small
  · -- the block of an old event is sent once more, and the cursor stays
    rw [if_neg ahead]
    have behind := Nat.le_of_not_lt ahead
    have next : latestSafeBlock ≤ w.cursor + 1 := by omega
    have sends : w.Sends ⟨max w.cursor latestSafeBlock,
        ⟨latestSafeBlock, latestSafeBlock⟩ :: w.sent⟩ :=
      .range ⟨latestSafeBlock, latestSafeBlock⟩ next
    rwa [max_eq_left behind] at sends

theorem watchBlocksWs_sends (phase : WsPhase) (event : WsEvent) :
    w.Sends (watchBlocksWs true revealDelayBlocks (phase, w) event).2 := by
  cases phase <;> cases event
  case connecting.connected attempts subscribed =>
    simp only [watchBlocksWs]
    split
    · exact .nothing
    · next found => exact w.catchUp_sends (getLatestSafeBlock_lt found)
  case listening.log log =>
    simp only [watchBlocksWs]
    split
    · split
      · exact .nothing
      · next bn _ => exact w.onLog_sends (saturating_lt bn _)
    · exact .nothing
  case listening.heartbeat probe =>
    simp only [watchBlocksWs]
    split
    · exact .nothing
    · next blockNum => exact w.catchUp_sends (saturating_lt blockNum _)
  all_goals exact .nothing

/-- The ranges in the channel, together with those that were received before, keep without a gap. -/
theorem Watcher.Sends.gapless (sends : w.Sends w') (received : List BlockRange)
    (gapless : Gapless initial w.cursor (w.sent ++ received)) :
    Gapless initial w'.cursor (w'.sent ++ received) := by
  cases sends with
  | nothing => exact gapless
  | range _ next => exact .send gapless next

/-- **A run of a watcher**: a state in which there is a watcher, and steps that send. -/
theorem Watcher.Sends.run {σ α : Type} (watcher : σ → Watcher) {step : σ → α → σ}
    (sends : ∀ s event, (watcher s).Sends (watcher (step s event))) (events : List α) (s : σ)
    (gapless : Gapless initial (watcher s).cursor (watcher s).sent) :
    Gapless initial (watcher (events.foldl step s)).cursor
      (watcher (events.foldl step s)).sent := by
  induction events generalizing s with
  | nil => exact gapless
  | cons event rest ih =>
    have next := (sends s event).gapless [] (by rwa [List.append_nil])
    rw [List.append_nil] at next
    exact ih _ next

/-- A run of the HTTP watcher. -/
def watchBlocksRun (revealDelayBlocks : ℕ) (latestSafeBlock : UInt64)
    (polls : List (ℕ → Option UInt64)) : Watcher :=
  polls.foldl (watchBlocks true revealDelayBlocks) (.new latestSafeBlock)

/-- A run of the WebSocket watcher. -/
def watchBlocksWsRun (revealDelayBlocks : ℕ) (latestSafeBlock : UInt64) (events : List WsEvent) :
    WsPhase × Watcher :=
  events.foldl (watchBlocksWs true revealDelayBlocks) (.connecting, .new latestSafeBlock)

end Cursor

/-! ### Batches -/

/-- The next batch of a range of which `currentBlock` is the first block left. -/
def nextBatch (currentBlock lastBlock : ℕ) : BlockRange :=
  let toBlock := U64.add currentBlock blockBatchSize
  ⟨currentBlock, if lastBlock < toBlock then lastBlock else toBlock⟩

/-- The batches of `process_block_range`, for at most `fuel` turns of its loop. -/
def processBlockRange : ℕ → ℕ → ℕ → Option (List BlockRange)
  | 0, _, _ => none
  | fuel + 1, currentBlock, lastBlock =>
      if currentBlock ≤ lastBlock then
        let batch := nextBatch currentBlock lastBlock
        (processBlockRange fuel (U64.add batch.last 1) lastBlock).map (batch :: ·)
      else some []

/-- Far enough below `u64::MAX` a batch lies in its range, and the next one begins right after it. -/
theorem nextBatch_within {currentBlock lastBlock : ℕ}
    (far : lastBlock + (blockBatchSize + 1) ≤ U64.max) (left : currentBlock ≤ lastBlock) :
    currentBlock ≤ (nextBatch currentBlock lastBlock).last ∧
      (nextBatch currentBlock lastBlock).last ≤ lastBlock ∧
      U64.add (nextBatch currentBlock lastBlock).last 1 =
        (nextBatch currentBlock lastBlock).last + 1 := by
  have room : lastBlock + blockBatchSize + 1 < U64.size := by
    unfold U64.max at far
    omega
  have plain : U64.add currentBlock blockBatchSize = currentBlock + blockBatchSize :=
    U64.add_of_lt (by omega)
  have within : currentBlock ≤ (nextBatch currentBlock lastBlock).last ∧
      (nextBatch currentBlock lastBlock).last ≤ lastBlock := by
    unfold nextBatch
    rw [plain]
    dsimp only
    split <;> omega
  exact ⟨within.1, within.2, U64.add_of_lt (by omega)⟩

/-- More turns change nothing. -/
theorem processBlockRange_mono {fuel fuel' : ℕ} (le : fuel ≤ fuel') :
    ∀ {currentBlock lastBlock : ℕ} {batches : List BlockRange},
      processBlockRange fuel currentBlock lastBlock = some batches →
      processBlockRange fuel' currentBlock lastBlock = some batches := by
  induction fuel generalizing fuel' with
  | zero => exact fun failed => nomatch failed
  | succ fuel ih =>
    obtain ⟨fuel', rfl⟩ := Nat.exists_eq_succ_of_ne_zero (show fuel' ≠ 0 by omega)
    intro currentBlock lastBlock batches found
    unfold processBlockRange at found ⊢
    split
    · next left =>
      rw [if_pos left] at found
      obtain ⟨rest, made, rfl⟩ := Option.map_eq_some_iff.mp found
      exact Option.map_eq_some_iff.mpr ⟨rest, ih (Nat.le_of_succ_le_succ le) made, rfl⟩
    · next done =>
      rw [if_neg done] at found
      exact found

/-- **The loop ends, and its batches tile the range**, when the last block is far enough below
`u64::MAX`. -/
theorem processBlockRange_tiles {lastBlock : ℕ}
    (far : lastBlock + (blockBatchSize + 1) ≤ U64.max) :
    ∀ fuel currentBlock, lastBlock + 1 - currentBlock < fuel →
      ∃ batches, processBlockRange fuel currentBlock lastBlock = some batches ∧
        Tiles lastBlock currentBlock batches := by
  intro fuel
  induction fuel with
  | zero => exact fun _ short => absurd short (Nat.not_lt_zero _)
  | succ fuel ih =>
    intro currentBlock enough
    unfold processBlockRange
    by_cases left : currentBlock ≤ lastBlock
    · -- the next turn begins after the batch, so there is less left
      obtain ⟨nonempty, within, next⟩ := nextBatch_within far left
      obtain ⟨rest, found, tiles⟩ := ih ((nextBatch currentBlock lastBlock).last + 1) (by omega)
      rw [if_pos left]
      dsimp only
      rw [next, found]
      exact ⟨_, rfl, .cons nonempty within tiles⟩
    · rw [if_neg left]
      exact ⟨[], rfl, .nil (Nat.lt_of_not_le left)⟩

/-- **No gaps.** While the receiver is alive, for every sequence of polls the HTTP watcher's cursor
does not fall, and everything from the initial safe block up to it was sent; the same holds of the
WebSocket watcher for every sequence of connections, logs, heartbeats and failures. And the batches of
a range are made in finitely many turns, follow each other without a gap, and contain every block of
the range exactly once and no other block. -/
theorem ranges_without_gaps (revealDelayBlocks : ℕ) (initial : UInt64) :
    (∀ polls poll,
      (watchBlocksRun revealDelayBlocks initial polls).cursor ≤
        (watchBlocksRun revealDelayBlocks initial (polls ++ [poll])).cursor ∧
      Set.Ioc initial.toNat (watchBlocksRun revealDelayBlocks initial polls).cursor ⊆
        covered (watchBlocksRun revealDelayBlocks initial polls).sent) ∧
    (∀ events event,
      (watchBlocksWsRun revealDelayBlocks initial events).2.cursor ≤
        (watchBlocksWsRun revealDelayBlocks initial (events ++ [event])).2.cursor ∧
      Set.Ioc initial.toNat (watchBlocksWsRun revealDelayBlocks initial events).2.cursor ⊆
        covered (watchBlocksWsRun revealDelayBlocks initial events).2.sent) ∧
    ∀ firstBlock lastBlock : ℕ, lastBlock + (blockBatchSize + 1) ≤ U64.max →
      ∃ batches, (∀ fuel, lastBlock + 1 - firstBlock < fuel →
          processBlockRange fuel firstBlock lastBlock = some batches) ∧
        Tiles lastBlock firstBlock batches ∧
        ∀ block, batches.countP (fun batch => batch.Contains block) =
          if firstBlock ≤ block ∧ block ≤ lastBlock then 1 else 0 := by
  refine ⟨fun polls poll => ⟨?_, ?_⟩, fun events event => ⟨?_, ?_⟩, fun firstBlock lastBlock far => ?_⟩
  · unfold watchBlocksRun
    rw [List.foldl_append]
    exact (watchBlocks_sends poll).up
  · exact (Watcher.Sends.run id (fun _ poll => watchBlocks_sends poll) polls _ .start).covers
  · unfold watchBlocksWsRun
    rw [List.foldl_append]
    exact (watchBlocksWs_sends _ event).up
  · exact (Watcher.Sends.run Prod.snd (fun state event => watchBlocksWs_sends state.1 event)
      events _ .start).covers
  · obtain ⟨batches, found, tiles⟩ := processBlockRange_tiles far _ firstBlock (Nat.lt_succ_self _)
    exact ⟨batches, fun fuel enough => processBlockRange_mono enough found, tiles, tiles.count⟩

/-- A connection, a log above its block, a quiet interval and a connection that is lost. -/
def Sample.wsEvents : List WsEvent :=
  [.connected (fun _ => some 20) true, .log ⟨[requestedEventTopic], some 40⟩, .heartbeat (some 45),
    .heartbeat none]

theorem ranges_without_gaps_sample :
    (Set.Ioc 10 43 ⊆ covered (watchBlocksRun 2 10 [fun _ => some 45]).sent ∧
      Set.Ioc 10 43 ⊆ covered (watchBlocksWsRun 2 10 Sample.wsEvents).2.sent) ∧
    ∃ batches, processBlockRange 250 5 250 = some batches ∧ Tiles 250 5 batches := by
  have gapless := ranges_without_gaps 2 10
  obtain ⟨batches, found, tiles, _⟩ := gapless.2.2 5 250 (by decide)
  exact ⟨⟨(gapless.1 [fun _ => some 45] fun _ => none).2,
    (gapless.2.1 Sample.wsEvents .streamEnded).2⟩, batches, found 250 (by decide), tiles⟩

end Dice
