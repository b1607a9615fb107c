/-
**Which blocks the keeper ends up having fetched.**

* `InOrder` — the invariant of a keeper: the ranges that were sent have no gap, and nothing is
  scanned beyond the cursor.
* `Since` — the account between two times: what was to be scanned at the first and what was received
  since is, at the second, fetched, given up, or still to be scanned.
* `blocks_fetched_iff` — when both scanners are through and nothing was given up since an earlier
  time, every block is fetched exactly when the blocks that had been given up by then were fetched
  otherwise, or were still to be scanned.

A range does not go back further than its overlap (HTTP) or not at all (WebSocket), and its delays
reach back a fixed number of blocks, so a block that was given up earlier is not scanned again.
-/

import Dice.Service.Keeper

set_option linter.unusedSectionVars false

namespace Dice.Keeper

open ClosedInterval (covered Gapless)

variable {config : KeeperConfig} {k k' k₀ : Keeper} {action : KeeperAction} {worker : Worker}
variable {block initial : ℕ}

/-- The batches that were fetched. -/
def batches (k : Keeper) : List BlockRange := k.fetched.map Prod.fst

/-- The blocks that some scanner still has to scan. -/
def todo (k : Keeper) : Set ℕ := {block | ∃ worker, block ∈ covered (k.scanner worker).passes}

/-- Both scanners are through. -/
def Through (k : Keeper) : Prop := ∀ worker, (k.scanner worker).passes = []

theorem Through.todo (through : k.Through) : k.todo = ∅ := by
  ext block
  refine ⟨fun ⟨worker, member⟩ => ?_, fun member => member.elim⟩
  rw [through worker, ClosedInterval.covered_nil] at member
  exact member

/-! ### One scanner -/

section OneScanner

variable {passes : List BlockRange} {events : List RequestedEvent} {extra : Set ℕ}

/-- A scanner exchanges a part of its passes. -/
theorem todo_subset (scanner : k'.scanner = Function.update k.scanner worker ⟨passes, events⟩)
    (splits : covered (k.scanner worker).passes ⊆ extra ∪ covered passes) :
    k.todo ⊆ extra ∪ k'.todo := by
  rintro block ⟨other, member⟩
  by_cases same : other = worker
  · rw [same] at member
    rcases splits member with done | left
    · exact .inl done
    · refine .inr ⟨worker, ?_⟩
      rw [scanner, Function.update_self]
      exact left
  · refine .inr ⟨other, ?_⟩
    rw [scanner, Function.update_of_ne same]
    exact member

theorem todo_within (scanner : k'.scanner = Function.update k.scanner worker ⟨passes, events⟩)
    (within : covered passes ⊆ covered (k.scanner worker).passes) : k'.todo ⊆ k.todo := by
  rintro block ⟨other, member⟩
  rw [scanner] at member
  by_cases same : other = worker
  · rw [same, Function.update_self] at member
    exact ⟨worker, within member⟩
  · rw [Function.update_of_ne same] at member
    exact ⟨other, member⟩

end OneScanner

section OneBatch

variable {currentBlock lastBlock : ℕ} {later : List BlockRange}

/-- What a batch and the next turn of the loop leave out of a pass is nothing, even if an addition
wraps around. -/
theorem nextBatch_splits :
    covered (⟨currentBlock, lastBlock⟩ :: later) ⊆ covered [nextBatch currentBlock lastBlock] ∪
      covered (⟨U64.add (nextBatch currentBlock lastBlock).last 1, lastBlock⟩ :: later) := by
  rintro block ⟨pass, member, low, high⟩
  rcases List.mem_cons.mp member with rfl | member
  · by_cases inside : block ≤ (nextBatch currentBlock lastBlock).last
    · exact .inl ⟨_, List.mem_singleton_self _, low, inside⟩
    · have next : U64.add (nextBatch currentBlock lastBlock).last 1 ≤
          (nextBatch currentBlock lastBlock).last + 1 := Nat.mod_le _ _
      have start : U64.add (nextBatch currentBlock lastBlock).last 1 ≤ block := by omega
      exact .inr ⟨_, List.mem_cons_self, start, high⟩
  · exact .inr ⟨pass, List.mem_cons_of_mem _ member, low, high⟩

/-- Far enough below `u64::MAX`, both lie in the pass. -/
theorem nextBatch_covered (far : lastBlock + (blockBatchSize + 1) ≤ U64.max)
    (left : currentBlock ≤ lastBlock) :
    covered [nextBatch currentBlock lastBlock] ∪
        covered (⟨U64.add (nextBatch currentBlock lastBlock).last 1, lastBlock⟩ :: later) ⊆
      covered (⟨currentBlock, lastBlock⟩ :: later) := by
  obtain ⟨nonempty, within, next⟩ := nextBatch_within far left
  rw [next]
  rintro block (⟨batch, single, low, high⟩ | ⟨pass, member, low, high⟩)
  · obtain rfl := List.mem_singleton.mp single
    exact ⟨_, List.mem_cons_self, low, high.trans within⟩
  · rcases List.mem_cons.mp member with rfl | member
    · have start : currentBlock ≤ block := by
        dsimp only at low
        omega
      exact ⟨_, List.mem_cons_self, start, high⟩
    · exact ⟨pass, List.mem_cons_of_mem _ member, low, high⟩

end OneBatch

/-! ### The invariant -/

/-- **The order of a keeper.** The ranges that were sent, those in the channel and those received,
have no gap, and no pass goes beyond the cursor. -/
structure InOrder (initial : ℕ) (k : Keeper) : Prop where
  gapless : Gapless initial k.watcher.cursor (k.watcher.sent ++ k.received)
  behind : ∀ worker, ∀ pass ∈ (k.scanner worker).passes, pass.last ≤ k.watcher.cursor

theorem passes_last_le {range pass : BlockRange} (member : pass ∈ config.passes range) :
    pass.last ≤ range.last := by
  rcases List.mem_cons.mp member with rfl | member
  · exact le_rfl
  · obtain ⟨delay, _, rfl⟩ := List.mem_map.mp member
    exact Nat.sub_le _ _

theorem start_inOrder (config : KeeperConfig) (latestSafeBlock : UInt64) :
    InOrder latestSafeBlock.toNat (start config latestSafeBlock) where
  gapless := .start
  behind
    | .backlog, _, member => passes_last_le member
    | .live, _, member => absurd member List.not_mem_nil

/-- A scanner's passes are replaced by passes that do not go beyond the cursor. -/
theorem InOrder.setScanner (order : InOrder initial k) {passes : List BlockRange}
    {events : List RequestedEvent} (behind : ∀ pass ∈ passes, pass.last ≤ k.watcher.cursor)
    (scanners : k'.scanner = Function.update k.scanner worker ⟨passes, events⟩)
    (watcher : k'.watcher = k.watcher) (received : k'.received = k.received) :
    InOrder initial k' where
  gapless := by
    rw [watcher, received]
    exact order.gapless
  behind := by
    rw [watcher]
    exact forall_scanner (fun scanner => ∀ pass ∈ scanner.passes, pass.last ≤ k.watcher.cursor)
      scanners behind order.behind

theorem InOrder.effect (order : InOrder initial k) (effect : Effect config k action k') :
    InOrder initial k' := by
  cases effect with
  | idle _ => exact order
  | watched sends =>
    exact ⟨sends.gapless k.received order.gapless,
      fun worker pass member => (order.behind worker pass member).trans sends.up⟩
  | @received range waiting idle sent =>
    have split : k.watcher.sent ++ k.received = waiting ++ range :: k.received := by
      rw [sent, List.append_assoc]
      rfl
    have gapless := order.gapless
    rw [split] at gapless
    have reached : range.last ≤ k.watcher.cursor :=
      gapless.last_le (List.mem_append_right _ List.mem_cons_self)
    have passes : ∀ pass ∈ config.passes range, pass.last ≤ k.watcher.cursor :=
      fun pass member => (passes_last_le member).trans reached
    exact ⟨gapless, forall_scanner
      (fun scanner => ∀ pass ∈ scanner.passes, pass.last ≤ k.watcher.cursor) rfl passes order.behind⟩
  | @fetched worker _ _ _ _ _ scanning _ _ =>
    have ends := passes_of_scanning (· ≤ k.watcher.cursor) scanning (order.behind worker)
    exact order.setScanner (List.forall_mem_cons.mpr ends) rfl rfl rfl
  | @givenUp worker _ _ _ _ scanning _ =>
    have ends := passes_of_scanning (· ≤ k.watcher.cursor) scanning (order.behind worker)
    exact order.setScanner (List.forall_mem_cons.mpr ends) rfl rfl rfl
  | @passed worker _ _ _ scanning _ =>
    have ends := passes_of_scanning (· ≤ k.watcher.cursor) scanning (order.behind worker)
    exact order.setScanner ends.2 rfl rfl rfl
  | @known worker _ _ _ entering _ =>
    have behind := order.behind worker
    rw [entering] at behind
    exact order.setScanner behind rfl rfl rfl
  | @spawned worker _ _ _ entering _ =>
    have behind := order.behind worker
    rw [entering] at behind
    exact order.setScanner behind rfl rfl rfl
  | finished => exact ⟨order.gapless, order.behind⟩

/-! ### The account between two times -/

/-- **The account.** What was to be scanned at the earlier time and what was received since is, now,
fetched, given up, or still to be scanned; and far enough below `u64::MAX` nothing else was fetched. -/
structure Since (config : KeeperConfig) (k₀ k : Keeper)
    (newer : List (BlockRange × List RequestedEvent)) (skipped ranges : List BlockRange) :
    Prop where
  fetched : k.fetched = newer ++ k₀.fetched
  givenUp : k.givenUp = skipped ++ k₀.givenUp
  received : k.received = ranges ++ k₀.received
  up : k₀.watcher.cursor ≤ k.watcher.cursor
  done : k₀.todo ∪ covered (ranges.flatMap config.passes) ⊆
    covered (newer.map Prod.fst) ∪ covered skipped ∪ k.todo
  within : k.watcher.cursor + (blockBatchSize + 1) ≤ U64.max →
    covered (newer.map Prod.fst) ∪ k.todo ⊆ k₀.todo ∪ covered (ranges.flatMap config.passes)

section Account

variable {newer : List (BlockRange × List RequestedEvent)} {skipped ranges : List BlockRange}

variable {newer' : List (BlockRange × List RequestedEvent)} {skipped' ranges' : List BlockRange}

theorem Since.trans {k₁ : Keeper} (first : Since config k₀ k₁ newer skipped ranges)
    (second : Since config k₁ k newer' skipped' ranges') :
    Since config k₀ k (newer' ++ newer) (skipped' ++ skipped) (ranges' ++ ranges) where
  fetched := by rw [second.fetched, first.fetched, List.append_assoc]
  givenUp := by rw [second.givenUp, first.givenUp, List.append_assoc]
  received := by rw [second.received, first.received, List.append_assoc]
  up := first.up.trans second.up
  done := by
    have before := first.done
    have after := second.done
    simp only [List.flatMap_append, List.map_append, ClosedInterval.covered_append]
    rintro block (old | new | old)
    · rcases before (.inl old) with (found | skipped) | left
      · exact .inl (.inl (.inr found))
      · exact .inl (.inr (.inr skipped))
      · exact (after (.inl left)).imp_left (Or.imp .inl .inl)
    · exact (after (.inr new)).imp_left (Or.imp .inl .inl)
    · rcases before (.inr old) with (found | skipped) | left
      · exact .inl (.inl (.inr found))
      · exact .inl (.inr (.inr skipped))
      · exact (after (.inl left)).imp_left (Or.imp .inl .inl)
  within far := by
    have up := second.up
    have before := first.within (by omega)
    have after := second.within far
    simp only [List.flatMap_append, List.map_append, ClosedInterval.covered_append]
    rintro block ((new | old) | left)
    · rcases after (.inl new) with member | member
      · exact (before (.inr member)).imp_right .inr
      · exact .inr (.inl member)
    · exact (before (.inl old)).imp_right .inr
    · rcases after (.inr left) with member | member
      · exact (before (.inr member)).imp_right .inr
      · exact .inr (.inl member)

/-- Nothing happens to the passes. -/
theorem Since.same (todo : k'.todo = k.todo) (fetched : k'.fetched = k.fetched)
    (givenUp : k'.givenUp = k.givenUp) (received : k'.received = k.received)
    (up : k.watcher.cursor ≤ k'.watcher.cursor) : Since config k k' [] [] [] where
  fetched := fetched
  givenUp := givenUp
  received := received
  up := up
  done := by simp [todo]
  within := by simp [todo]

/-- A scanner goes on with its passes: what it leaves behind is a batch that was fetched, or one that
was given up. -/
theorem Since.scanned {passes : List BlockRange} {events : List RequestedEvent}
    (scanner : k'.scanner = Function.update k.scanner worker ⟨passes, events⟩)
    (splits : covered (k.scanner worker).passes ⊆
      covered (newer.map Prod.fst) ∪ covered skipped ∪ covered passes)
    (within : k.watcher.cursor + (blockBatchSize + 1) ≤ U64.max →
      covered (newer.map Prod.fst) ∪ covered passes ⊆ covered (k.scanner worker).passes)
    (fetched : k'.fetched = newer ++ k.fetched) (givenUp : k'.givenUp = skipped ++ k.givenUp)
    (received : k'.received = k.received) (watcher : k'.watcher = k.watcher) :
    Since config k k' newer skipped [] where
  fetched := fetched
  givenUp := givenUp
  received := received
  up := by rw [watcher]
  done := by
    rw [List.flatMap_nil, ClosedInterval.covered_nil, Set.union_empty]
    exact todo_subset scanner splits
  within far := by
    rw [watcher] at far
    rw [List.flatMap_nil, ClosedInterval.covered_nil, Set.union_empty]
    rintro block (new | left)
    · exact ⟨worker, within far (.inl new)⟩
    · exact todo_within scanner (Set.subset_union_right.trans (within far)) left

/-- **The account of one step.** -/
theorem Effect.since (order : InOrder initial k) (effect : Effect config k action k') :
    ∃ newer skipped ranges, Since config k k' newer skipped ranges := by
  have bound : ∀ {worker : Worker} {currentBlock lastBlock : ℕ} {later : List BlockRange},
      k.scanner worker = ⟨⟨currentBlock, lastBlock⟩ :: later, []⟩ →
      lastBlock ≤ k.watcher.cursor := fun scanning =>
    (passes_of_scanning (· ≤ k.watcher.cursor) scanning (order.behind _)).1
  cases effect with
  | idle _ => exact ⟨[], [], [], .same rfl rfl rfl rfl le_rfl⟩
  | watched sends => exact ⟨[], [], [], .same rfl rfl rfl rfl sends.up⟩
  | @received range waiting idle sent =>
    have none : (k.scanner .live).passes = [] := by rw [idle]
    refine ⟨[], [], [range], rfl, rfl, rfl, le_rfl, ?_, fun _ => ?_⟩
    · simp only [List.flatMap_cons, List.flatMap_nil, List.append_nil, List.map_nil,
        ClosedInterval.covered_nil, Set.empty_union]
      rintro block (⟨worker, member⟩ | new)
      · by_cases live : worker = .live
        · rw [live, none, ClosedInterval.covered_nil] at member
          exact member.elim
        · refine ⟨worker, ?_⟩
          simpa [setScanner, Function.update_of_ne live] using member
      · exact ⟨.live, by simpa [setScanner] using new⟩
    · simp only [List.flatMap_cons, List.flatMap_nil, List.append_nil, List.map_nil,
        ClosedInterval.covered_nil, Set.empty_union]
      rintro block ⟨worker, member⟩
      by_cases live : worker = .live
      · subst live
        exact .inr (by simpa [setScanner] using member)
      · exact .inl ⟨worker, by simpa [setScanner, Function.update_of_ne live] using member⟩
  | @fetched worker _ currentBlock lastBlock later events scanning left _ =>
    refine ⟨[(nextBatch currentBlock lastBlock, events)], [], [], .scanned rfl ?_ (fun far => ?_)
      rfl rfl rfl rfl⟩
    · rw [scanning, ClosedInterval.covered_nil, Set.union_empty]
      exact nextBatch_splits
    · rw [scanning]
      exact nextBatch_covered (by have := bound scanning; omega) left
  | @givenUp worker _ currentBlock lastBlock later scanning left =>
    refine ⟨[], [nextBatch currentBlock lastBlock], [], .scanned rfl ?_ (fun far => ?_) rfl rfl rfl
      rfl⟩
    · rw [scanning, List.map_nil, ClosedInterval.covered_nil, Set.empty_union]
      exact nextBatch_splits
    · rw [scanning, List.map_nil, ClosedInterval.covered_nil, Set.empty_union]
      exact Set.subset_union_right.trans
        (nextBatch_covered (by have := bound scanning; omega) left)
  | @passed worker currentBlock lastBlock later scanning ended =>
    refine ⟨[], [], [], .scanned rfl ?_ (fun far => ?_) rfl rfl rfl rfl⟩
    · rw [scanning, ClosedInterval.covered_cons]
      rintro block (⟨low, high⟩ | member)
      · exact absurd (low.trans high) (Nat.not_le_of_lt ended)
      · exact .inr member
    · rw [scanning, List.map_nil, ClosedInterval.covered_nil, Set.empty_union]
      exact ClosedInterval.covered_mono (List.subset_cons_self _ _)
  | known entering _ =>
    refine ⟨[], [], [], .scanned rfl ?_ (fun far => ?_) rfl rfl rfl rfl⟩
    · rw [entering]
      exact Set.subset_union_right
    · rw [entering, List.map_nil, ClosedInterval.covered_nil, Set.empty_union]
  | spawned entering _ =>
    refine ⟨[], [], [], .scanned rfl ?_ (fun far => ?_) rfl rfl rfl rfl⟩
    · rw [entering]
      exact Set.subset_union_right
    · rw [entering, List.map_nil, ClosedInterval.covered_nil, Set.empty_union]
  | finished => exact ⟨[], [], [], .same rfl rfl rfl rfl le_rfl⟩

/-- **The account of a run.** -/
theorem Reaches.account (reaches : Reaches config k k') (order : InOrder initial k) :
    InOrder initial k' ∧ ∃ newer skipped ranges, Since config k k' newer skipped ranges := by
  refine reaches.preserves (P := fun k' => InOrder initial k' ∧
    ∃ newer skipped ranges, Since config k k' newer skipped ranges) ?_
    ⟨order, [], [], [], .same rfl rfl rfl rfl le_rfl⟩
  rintro k₁ _ k₂ ⟨order, _, _, _, since⟩ effect
  obtain ⟨_, _, _, step⟩ := effect.since order
  exact ⟨order.effect effect, _, _, _, since.trans step⟩

end Account

/-! ### What is fetched in the end -/

section Fetched

variable {latestSafeBlock : UInt64} {range : BlockRange} {older ranges : List BlockRange}

/-- The blocks from the first one that the keeper scans up to a last one. -/
def scope (config : KeeperConfig) (latestSafeBlock : UInt64) (last : ℕ) : Set ℕ :=
  Set.Icc (config.backlog latestSafeBlock.toNat).first last

/-- **The blocks that were given up are not lost**: within the scope, each of them was fetched
otherwise, or is still to be scanned, or is scanned again for one of the ranges. -/
def Recoverable (config : KeeperConfig) (latestSafeBlock : UInt64) (k : Keeper)
    (ranges : List BlockRange) (last : ℕ) : Prop :=
  scope config latestSafeBlock last ∩ covered k.givenUp ⊆
    covered k.batches ∪ k.todo ∪ covered (ranges.flatMap config.passes)

/-- When both scanners are through, every block up to the last received range was tried. -/
theorem Through.tried (reaches : Reaches config (start config latestSafeBlock) k)
    (through : k.Through) (received : k.received = range :: older) :
    scope config latestSafeBlock range.last ⊆ covered k.batches ∪ covered k.givenUp := by
  obtain ⟨order, newer, skipped, ranges, since⟩ :=
    reaches.account (start_inOrder config latestSafeBlock)
  have fetched : k.fetched = newer := since.fetched.trans (List.append_nil _)
  have givenUp : k.givenUp = skipped := since.givenUp.trans (List.append_nil _)
  have all : k.received = ranges := since.received.trans (List.append_nil _)
  have done := since.done
  rw [through.todo, Set.union_empty, ← fetched, ← givenUp] at done
  rintro block ⟨low, high⟩
  apply done
  by_cases backlog : block ≤ latestSafeBlock.toNat
  · -- a block of the backlog
    exact .inl ⟨.backlog, config.backlog latestSafeBlock.toNat, List.mem_cons_self, low, backlog⟩
  · -- a block that was sent with this range or before it
    have gapless := order.gapless
    rw [received] at gapless
    obtain ⟨cursor, _, gapless⟩ := gapless.suffix
    have reached : range.last ≤ cursor := gapless.last_le List.mem_cons_self
    obtain ⟨sent, member, contains⟩ :=
      gapless.covers ⟨Nat.lt_of_not_le backlog, high.trans reached⟩
    rw [← received, all] at member
    exact .inr ⟨sent, List.mem_flatMap.mpr ⟨sent, member, List.mem_cons_self⟩, contains⟩

/-- **When no block is dropped.** At a time when both scanners are through and nothing was given up
since an earlier time, every block from the first scanned one up to the last received range was
fetched, if what had been given up at the earlier time is recoverable by what was left to scan then
and the ranges that were received since; and, for block numbers far enough below `u64::MAX`, only
then. -/
theorem blocks_fetched_iff {k₀ k : Keeper} (reach : Reaches config (start config latestSafeBlock) k₀)
    (later : Reaches config k₀ k) (through : k.Through) (recovered : k.givenUp = k₀.givenUp)
    (received : k.received = range :: older) (since : k.received = ranges ++ k₀.received) :
    (Recoverable config latestSafeBlock k₀ ranges range.last →
      scope config latestSafeBlock range.last ⊆ covered k.batches) ∧
    (k.watcher.cursor + (blockBatchSize + 1) ≤ U64.max →
      scope config latestSafeBlock range.last ⊆ covered k.batches →
      Recoverable config latestSafeBlock k₀ ranges range.last) := by
  obtain ⟨order, _⟩ := reach.account (start_inOrder config latestSafeBlock)
  obtain ⟨_, newer, skipped, ranges', account⟩ := later.account order
  have tried := through.tried (reach.trans later) received
  have nothing : skipped = [] := List.append_left_eq_self.mp (account.givenUp.symm.trans recovered)
  have same : ranges' = ranges :=
    List.append_cancel_right (account.received.symm.trans since)
  subst nothing same
  have batches : covered k.batches = covered (newer.map Prod.fst) ∪ covered k₀.batches := by
    rw [Keeper.batches, account.fetched, List.map_append, ClosedInterval.covered_append]
    rfl
  have done := account.done
  have within := account.within
  rw [through.todo, ClosedInterval.covered_nil, Set.union_empty, Set.union_empty] at done
  rw [through.todo, Set.union_empty] at within
  rw [batches, recovered] at tried
  constructor
  · intro recoverable block inside
    rw [batches]
    rcases tried inside with found | givenUp
    · exact found
    · rcases recoverable ⟨inside, givenUp⟩ with (before | left) | again
      · exact .inr before
      · exact .inl (done (.inl left))
      · exact .inl (done (.inr again))
  · rintro far fetched block ⟨inside, _⟩
    have found := fetched inside
    rw [batches] at found
    rcases found with new | old
    · exact (within far new).imp_left .inr
    · exact .inl (.inl old)

end Fetched

/-! ### Two concrete runs -/

namespace Sample

/-- A keeper that listens to a WebSocket and scans every range twice. -/
def keeperConfig (delay : ℕ) : KeeperConfig where
  ws := true
  revealDelayBlocks := 0
  blockDelays := [delay]
  backlogRange := 5
  fallback := false

/-- A node that answers with events, and one that does not answer. -/
def answers (events : List RequestedEvent) : ℕ → Attempt := fun _ => ⟨.ok events, .error []⟩

def timeout : ℕ → Attempt := fun _ => ⟨.error "i/o timeout".toList, .error []⟩

/-- A range of one batch is scanned, and then its delayed range. -/
def scan (worker : Worker) (attempts : ℕ → Attempt) : List KeeperAction :=
  [.fetch worker attempts, .endPass worker, .fetch worker attempts, .endPass worker]

/-- The backlog is scanned; then the node is down while blocks 11 to 20 are scanned. -/
def outage : List KeeperAction :=
  .ws (.connected (fun _ => some 10) true) :: scan .backlog (answers []) ++
    .ws (.heartbeat (some 20)) :: .receive :: scan .live timeout

/-- The node is back, and blocks 21 to 40 are scanned. -/
def recovery : List KeeperAction :=
  .ws (.heartbeat (some 40)) :: .receive :: scan .live (answers [])

def early (delay : ℕ) : Keeper := (start (keeperConfig delay) 10).run (keeperConfig delay) outage

def late (delay : ℕ) : Keeper := (early delay).run (keeperConfig delay) recovery

end Sample

/-- With a delay of ten blocks, the blocks of the outage are scanned again. -/
theorem blocks_fetched_iff_recovered :
    scope (Sample.keeperConfig 10) 10 40 ⊆ covered (Sample.late 10).batches := by
  have reach : Reaches (Sample.keeperConfig 10) (start (Sample.keeperConfig 10) 10)
      (Sample.early 10) := ⟨Sample.outage, rfl⟩
  have through : (Sample.late 10).Through := by
    rintro (_ | _) <;> decide +kernel
  have received : (Sample.late 10).received = ⟨21, 40⟩ :: [⟨11, 20⟩] := by decide +kernel
  have since : (Sample.late 10).received = [⟨21, 40⟩] ++ (Sample.early 10).received := by
    decide +kernel
  refine (blocks_fetched_iff reach ⟨Sample.recovery, rfl⟩ through (by decide +kernel) received
    since).1 ?_
  have givenUp : (Sample.early 10).givenUp = [⟨1, 10⟩, ⟨11, 20⟩] := by decide +kernel
  have batches : (Sample.early 10).batches = [⟨0, 0⟩, ⟨5, 10⟩] := by decide +kernel
  rintro block ⟨⟨low, _⟩, skipped, member, first, last⟩
  rw [givenUp, List.mem_cons, List.mem_singleton] at member
  rcases member with rfl | rfl
  · refine .inl (.inl ⟨⟨5, 10⟩, ?_, low, last⟩)
    rw [batches]
    exact List.mem_cons_of_mem _ List.mem_cons_self
  · exact .inr ⟨⟨11, 30⟩, by decide, first, last.trans (by decide)⟩

/-- **A block is dropped for good.** With a delay of five blocks, the keeper is through with a later
range, without an error, and block 11 was never fetched. -/
theorem block_dropped :
    Reaches (Sample.keeperConfig 5) (start (Sample.keeperConfig 5) 10) (Sample.early 5) ∧
    Reaches (Sample.keeperConfig 5) (Sample.early 5) (Sample.late 5) ∧
    (Sample.late 5).Through ∧ (Sample.late 5).givenUp = (Sample.early 5).givenUp ∧
    (Sample.late 5).received = ⟨21, 40⟩ :: (Sample.early 5).received ∧
    11 ∈ scope (Sample.keeperConfig 5) 10 40 ∧ 11 ∉ covered (Sample.late 5).batches := by
  refine ⟨⟨Sample.outage, rfl⟩, ⟨Sample.recovery, rfl⟩, ?_, by decide +kernel, by decide +kernel,
    ⟨by decide, by decide⟩, ?_⟩
  · rintro (_ | _) <;> decide +kernel
  · have batches : (Sample.late 5).batches = [⟨16, 35⟩, ⟨21, 40⟩, ⟨0, 5⟩, ⟨5, 10⟩] := by
      decide +kernel
    rw [batches]
    decide

end Dice.Keeper
