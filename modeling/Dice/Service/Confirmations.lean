/-
**What a keeper takes for confirmed.**

* `confirmedHead`, `WsEvent.rawHead` — the two kinds of heads that a watcher takes: one that it reads
  at the configured status, and one that the WebSocket brings, whatever the status.
* `Confirmed` — a block is as far below a head that was observed as the delay requires.
* `Keeper.Within` — all that a keeper has sent and is scanning ends at blocks with a property, and the
  events that it has are genuine.
* `Keeper.Within.step` — a property that goes down, and holds of what is computed from the heads, is
  kept by every step.
-/

import Mathlib.Order.Monotone.Defs
import Dice.Service.Keeper

set_option linter.unusedSectionVars false

namespace Dice

/-! ### Heads -/

/-- The head that `get_latest_safe_block` reads at the configured status. -/
def confirmedHead (attempts : ℕ → Option UInt64) : Option UInt64 :=
  (List.range maxSafeBlockRetries).findSome? attempts

/-- The head that a connection reads at the configured status. -/
def WsEvent.confirmedHead : WsPhase → WsEvent → Option UInt64
  | .connecting, .connected attempts _ => Dice.confirmedHead attempts
  | _, _ => none

/-- The head that a log or a heartbeat brings. -/
def WsEvent.rawHead : WsPhase → WsEvent → Option UInt64
  | .listening, .log entry => if entry.isRequested then entry.blockNumber else none
  | .listening, .heartbeat probe => probe
  | _, _ => none

/-- **The block is confirmed**: it is below an observed head by the delay. -/
def Confirmed (revealDelayBlocks : ℕ) (observed : List ℕ) (block : ℕ) : Prop :=
  ∃ head ∈ observed, block ≤ head - revealDelayBlocks

section Watcher

variable {P : ℕ → Prop} {w : Watcher} {revealDelayBlocks latestSafeBlock : ℕ}
variable {observed observed' : List ℕ} {attempts : ℕ → Option UInt64}

theorem Confirmed.mono (more : observed ⊆ observed') {block : ℕ}
    (confirmed : Confirmed revealDelayBlocks observed block) :
    Confirmed revealDelayBlocks observed' block := by
  obtain ⟨head, member, below⟩ := confirmed
  exact ⟨head, more member, below⟩

theorem confirmed_antitone : Antitone (Confirmed revealDelayBlocks observed) :=
  fun _ _ le ⟨head, member, below⟩ => ⟨head, member, le.trans below⟩

/-- The safe block is computed from the head that was read. -/
theorem exists_confirmedHead (found : getLatestSafeBlock revealDelayBlocks attempts =
    some latestSafeBlock) : ∃ head ∈ confirmedHead attempts,
      U64.sub head.toNat revealDelayBlocks = latestSafeBlock :=
  Option.map_eq_some_iff.mp found

/-! ### The watchers -/

/-- Nothing was sent beyond the blocks with a property. -/
structure Watcher.Within (P : ℕ → Prop) (w : Watcher) : Prop where
  cursor : P w.cursor
  sent : ∀ range ∈ w.sent, P range.last

theorem Watcher.Within.send (within : w.Within P) {range : BlockRange} (last : P range.last) :
    (w.send true range).Within P where
  cursor := within.cursor
  sent := List.forall_mem_cons.mpr ⟨last, within.sent⟩

theorem Watcher.Within.moveTo (within : w.Within P) (safe : P latestSafeBlock) :
    (w.moveTo true latestSafeBlock).Within P where
  cursor := safe
  sent := List.forall_mem_cons.mpr ⟨safe, within.sent⟩

theorem Watcher.Within.catchUp (within : w.Within P) (safe : P latestSafeBlock) :
    (w.catchUp true latestSafeBlock).Within P := by
  unfold Watcher.catchUp
  split
  · exact within.moveTo safe
  · exact within

theorem Watcher.Within.onLog (within : w.Within P) (safe : P latestSafeBlock) :
    (w.onLog true latestSafeBlock).Within P := by
  unfold Watcher.onLog
  split
  · exact within.moveTo safe
  · exact within.send safe

theorem Watcher.Within.watchBlocks (within : w.Within P)
    (confirmed : ∀ head ∈ confirmedHead attempts, P (U64.sub head.toNat revealDelayBlocks)) :
    (watchBlocks true revealDelayBlocks w attempts).Within P := by
  unfold Dice.watchBlocks
  split
  · exact within
  · next latestSafeBlock found =>
    obtain ⟨head, read, rfl⟩ := exists_confirmedHead found
    have safe := confirmed head read
    by_cases ahead : w.cursor < U64.sub head.toNat revealDelayBlocks
    · rw [if_pos ahead, if_pos rfl]
      exact ⟨safe, List.forall_mem_cons.mpr ⟨safe, within.sent⟩⟩
    · rw [if_neg ahead]
      exact within

theorem Watcher.Within.watchBlocksWs (within : w.Within P) (phase : WsPhase) (event : WsEvent)
    (confirmed : ∀ head ∈ event.confirmedHead phase, P (U64.sub head.toNat revealDelayBlocks))
    (raw : ∀ head ∈ event.rawHead phase, P (head.toNat - revealDelayBlocks)) :
    (watchBlocksWs true revealDelayBlocks (phase, w) event).2.Within P := by
  cases phase <;> cases event
  case connecting.connected attempts subscribed =>
    simp only [Dice.watchBlocksWs]
    split
    · exact within
    · next found =>
      obtain ⟨head, read, rfl⟩ := exists_confirmedHead found
      exact within.catchUp (confirmed head read)
  case listening.log log =>
    simp only [Dice.watchBlocksWs]
    split
    · next requested =>
      split
      · exact within
      · next bn block =>
        refine within.onLog (raw bn ?_)
        simp only [WsEvent.rawHead]
        rw [if_pos requested, block]
        exact rfl
    · exact within
  case listening.heartbeat probe =>
    simp only [Dice.watchBlocksWs]
    split
    · exact within
    · next blockNum => exact within.catchUp (raw blockNum rfl)
  all_goals exact within

theorem Watcher.Within.mono {Q : ℕ → Prop} (within : w.Within P) (weaker : ∀ b, P b → Q b) :
    w.Within Q where
  cursor := weaker _ within.cursor
  sent range member := weaker _ (within.sent range member)

end Watcher

/-! ### The keeper -/

/-- The node answers an attempt with these events. -/
def Attempt.Answers (attempt : Attempt) (events : List RequestedEvent) : Prop :=
  attempt.primary = .ok events ∨ attempt.fallback = .ok events

theorem Attempt.answers_of_result {attempt : Attempt} {fallback : Bool}
    {events : List RequestedEvent} (result : attempt.result fallback = .ok events) :
    attempt.Answers events := by
  unfold Attempt.result at result
  split at result
  · next found =>
    cases result
    exact .inl found
  · split at result
    · exact .inr result
    · cases result

theorem fetchEvents_answers {fallback : Bool} {attempts : ℕ → Attempt}
    {events : List RequestedEvent} (found : fetchEvents fallback attempts = some events) :
    ∃ i, (attempts i).Answers events := by
  obtain ⟨i, _, result⟩ := List.exists_of_findSome?_eq_some found
  cases outcome : (attempts i).result fallback with
  | error _ =>
    rw [outcome] at result
    cases result
  | ok _ =>
    rw [outcome] at result
    cases result
    exact ⟨i, Attempt.answers_of_result outcome⟩

/-- A batch does not go beyond its pass. -/
theorem nextBatch_last_le (currentBlock lastBlock : ℕ) :
    (nextBatch currentBlock lastBlock).last ≤ lastBlock := by
  unfold nextBatch
  dsimp only
  split <;> omega

namespace Keeper

/-- The head that an action reads at the configured status. -/
def confirmedHead (config : KeeperConfig) (k : Keeper) : KeeperAction → Option UInt64
  | .poll attempts => if config.ws then none else Dice.confirmedHead attempts
  | .ws event => if config.ws then event.confirmedHead k.phase else none
  | _ => none

/-- The head that an action brings, whatever the status. -/
def rawHead (config : KeeperConfig) (k : Keeper) : KeeperAction → Option UInt64
  | .ws event => if config.ws then event.rawHead k.phase else none
  | _ => none

/-- The node answers with events that are among those of the batch. -/
def Answered (logs : BlockRange → List RequestedEvent) (k : Keeper) : KeeperAction → Prop
  | .fetch worker attempts => ∀ {currentBlock lastBlock later},
      k.scanner worker = ⟨⟨currentBlock, lastBlock⟩ :: later, []⟩ →
      ∀ {i events}, (attempts i).Answers events → events ⊆ logs (nextBatch currentBlock lastBlock)
  | _ => True

/-- **A keeper that stays within the blocks with a property**, and has genuine events only. -/
structure Within (P : ℕ → Prop) (G : RequestedEvent → Prop) (k : Keeper) : Prop where
  watcher : k.watcher.Within P
  passes : ∀ worker, ∀ pass ∈ (k.scanner worker).passes, P pass.last
  events : ∀ worker, ∀ event ∈ (k.scanner worker).events, G event
  tasks : ∀ event ∈ k.tasks, G event

variable {P : ℕ → Prop} {G : RequestedEvent → Prop} {config : KeeperConfig} {k k' : Keeper}
variable {action : KeeperAction} {worker : Worker} {logs : BlockRange → List RequestedEvent}

theorem Within.mono {Q : ℕ → Prop} {H : RequestedEvent → Prop} (within : k.Within P G)
    (weaker : ∀ b, P b → Q b) (genuine : ∀ event, G event → H event) : k.Within Q H where
  watcher := within.watcher.mono weaker
  passes worker pass member := weaker _ (within.passes worker pass member)
  events worker event member := genuine _ (within.events worker event member)
  tasks event member := genuine _ (within.tasks event member)

/-- The passes over a range end where it does, or earlier. -/
theorem within_passes (down : Antitone P) {range : BlockRange} (last : P range.last) :
    ∀ pass ∈ config.passes range, P pass.last := by
  intro pass member
  rcases List.mem_cons.mp member with rfl | member
  · exact last
  · obtain ⟨delay, _, rfl⟩ := List.mem_map.mp member
    exact down (Nat.sub_le _ _) last

theorem start_within (down : Antitone P) {latestSafeBlock : UInt64} (safe : P latestSafeBlock.toNat) :
    (start config latestSafeBlock).Within P G where
  watcher := ⟨safe, fun _ member => absurd member List.not_mem_nil⟩
  passes
    | .backlog, pass, member => by
      have last : P (config.backlog latestSafeBlock.toNat).last := safe
      exact within_passes down last pass member
    | .live, _, member => absurd member List.not_mem_nil
  events
    | .backlog, _, member => absurd member List.not_mem_nil
    | .live, _, member => absurd member List.not_mem_nil
  tasks _ member := absurd member List.not_mem_nil

/-- A scanner's state is replaced. -/
theorem Within.setScanner (within : k.Within P G) {passes : List BlockRange}
    {events : List RequestedEvent}
    (scanner : k'.scanner = Function.update k.scanner worker ⟨passes, events⟩)
    (last : ∀ pass ∈ passes, P pass.last) (genuine : ∀ event ∈ events, G event)
    (watcher : k'.watcher.Within P) (tasks : ∀ event ∈ k'.tasks, G event) : k'.Within P G where
  watcher := watcher
  passes := forall_scanner (fun scanner => ∀ pass ∈ scanner.passes, P pass.last) scanner last
    within.passes
  events := forall_scanner (fun scanner => ∀ event ∈ scanner.events, G event) scanner genuine
    within.events
  tasks := tasks

/-- Whatever a step does, once the watcher is known to stay within. -/
theorem Within.effect (down : Antitone P)
    (genuine : ∀ range, P range.last → ∀ event ∈ logs range, G event) (within : k.Within P G)
    (answered : k.Answered logs action) (effect : Effect config k action k')
    (watcher : k'.watcher.Within P) : k'.Within P G := by
  have no_events : ∀ event ∈ ([] : List RequestedEvent), G event :=
    fun _ member => absurd member List.not_mem_nil
  cases effect with
  | idle _ => exact within
  | watched _ => exact ⟨watcher, within.passes, within.events, within.tasks⟩
  | @received range _ _ sent =>
    have last := within.watcher.sent range (by simp [sent])
    exact within.setScanner rfl (within_passes down last) no_events watcher within.tasks
  | @fetched worker _ currentBlock lastBlock later events scanning _ found =>
    have ends := passes_of_scanning P scanning (within.passes worker)
    obtain ⟨i, answers⟩ := fetchEvents_answers found
    have batch := down (nextBatch_last_le currentBlock lastBlock) ends.1
    exact within.setScanner rfl (List.forall_mem_cons.mpr ends)
      (fun event member => genuine _ batch event (answered scanning answers member)) watcher
      within.tasks
  | @givenUp worker _ _ _ _ scanning _ =>
    have ends := passes_of_scanning P scanning (within.passes worker)
    exact within.setScanner rfl (List.forall_mem_cons.mpr ends) no_events watcher within.tasks
  | @passed worker _ _ _ scanning _ =>
    have ends := passes_of_scanning P scanning (within.passes worker)
    exact within.setScanner rfl ends.2 no_events watcher within.tasks
  | @known worker _ _ _ entering _ =>
    have passes := within.passes worker
    have events := within.events worker
    rw [entering] at passes events
    exact within.setScanner rfl passes (List.forall_mem_cons.mp events).2 watcher within.tasks
  | @spawned worker _ event _ entering _ =>
    have passes := within.passes worker
    have events := within.events worker
    rw [entering] at passes events
    obtain ⟨first, others⟩ := List.forall_mem_cons.mp events
    exact within.setScanner rfl passes others watcher (List.forall_mem_cons.mpr ⟨first, within.tasks⟩)
  | finished =>
    exact ⟨watcher, within.passes, within.events,
      fun event member => within.tasks event (List.mem_of_mem_erase member)⟩

/-- The watcher of every step. -/
theorem Within.step_watcher (within : k.watcher.Within P)
    (confirmed : ∀ head ∈ k.confirmedHead config action,
      P (U64.sub head.toNat config.revealDelayBlocks))
    (raw : ∀ head ∈ k.rawHead config action, P (head.toNat - config.revealDelayBlocks)) :
    (k.step config action).watcher.Within P := by
  cases action with
  | poll attempts =>
    simp only [step, confirmedHead] at confirmed ⊢
    split
    · exact within
    · next http =>
      rw [if_neg http] at confirmed
      exact within.watchBlocks confirmed
  | ws event =>
    simp only [step, confirmedHead, rawHead] at confirmed raw ⊢
    split
    · next ws =>
      rw [if_pos ws] at confirmed raw
      exact within.watchBlocksWs k.phase event confirmed raw
    · exact within
  | receive =>
    simp only [step]
    split
    · exact ⟨within.cursor, fun range member => within.sent range (List.mem_of_mem_dropLast member)⟩
    · exact within
  | fetch worker attempts =>
    simp only [step]
    split
    · split
      · split <;> exact within
      · exact within
    · exact within
  | endPass worker =>
    simp only [step]
    split
    · split <;> exact within
    · exact within
  | insert worker =>
    simp only [step]
    split
    · split <;> exact within
    · exact within
  | finish event => exact within

/-- **Every step stays within**, if what is computed from the heads does. -/
theorem Within.step (down : Antitone P)
    (genuine : ∀ range, P range.last → ∀ event ∈ logs range, G event) (within : k.Within P G)
    (answered : k.Answered logs action)
    (confirmed : ∀ head ∈ k.confirmedHead config action,
      P (U64.sub head.toNat config.revealDelayBlocks))
    (raw : ∀ head ∈ k.rawHead config action, P (head.toNat - config.revealDelayBlocks)) :
    (k.step config action).Within P G :=
  within.effect down genuine answered (step_effect action)
    (Within.step_watcher within.watcher confirmed raw)

end Keeper

end Dice
