/-
**The tasks of the keeper, and its set of handled sequence numbers.**

A number is entered into the set when its task is spawned and is never taken out because of what
becomes of the task. It leaves the set only when a batch returns a number more than the retention
window above it.

* `Prunes` — events that take a number out of the set.
* `retried_iff` — an event that is fetched again gets a new task exactly if its number was pruned
  since it was entered.
* `Careful` — a step that prunes no number whose task is alive; `tasks_nodup` — in a run of such steps
  no number has two tasks at the same time.
-/

import Dice.Service.Keeper

set_option linter.unusedSectionVars false

namespace Dice.Keeper

variable {config : KeeperConfig} {k k' : Keeper} {action : KeeperAction} {n : ℕ}
variable {events : List RequestedEvent}

/-- **A number is pruned** by events of which one is more than the retention window beyond it. -/
def Prunes (events : List RequestedEvent) (n : ℕ) : Prop :=
  ∃ event ∈ events, n + cacheRetentionWindow < event.sequenceNumber

instance (events : List RequestedEvent) (n : ℕ) : Decidable (Prunes events n) :=
  inferInstanceAs (Decidable (∃ event ∈ events, _))

theorem mem_pruneCache {cache : Finset ℕ} :
    n ∈ pruneCache cache events ↔ n ∈ cache ∧ ¬ Prunes events n := by
  unfold pruneCache retentionFloor Prunes
  cases found : (events.map RequestedEvent.sequenceNumber).max? with
  | none =>
    have empty : events = [] := List.map_eq_nil_iff.mp (List.max?_eq_none_iff.mp found)
    simp [empty]
  | some maxSeq =>
    obtain ⟨member, bound⟩ := List.max?_eq_some_iff.mp found
    obtain ⟨greatest, inside, rfl⟩ := List.mem_map.mp member
    simp only [Option.map_some, Finset.mem_filter, not_exists, not_and, Nat.not_lt]
    refine and_congr_right fun _ => ⟨fun floor event among => ?_, fun all => ?_⟩
    · have below := bound event.sequenceNumber (List.mem_map_of_mem among)
      omega
    · have top := all greatest inside
      omega

/-! ### A concrete event -/

namespace Sample

/-- A keeper that scans its backlog twice. -/
def twice : KeeperConfig where
  ws := false
  revealDelayBlocks := 0
  blockDelays := [0]
  backlogRange := 5
  fallback := false

def event : RequestedEvent := ⟨1, 7⟩

/-- An event far beyond it. -/
def distant : RequestedEvent := ⟨20001, 8⟩

def returns (events : List RequestedEvent) : KeeperAction :=
  .fetch .backlog fun _ => ⟨.ok events, .error []⟩

/-- The event is fetched, and is the next one to be entered. -/
def entering : Keeper := (start twice 10).step twice (returns [event])

def spawned : Keeper := entering.step twice (.insert .backlog)

/-- The delayed pass begins, and a batch returns events. -/
def again (events : List RequestedEvent) : List KeeperAction := [.endPass .backlog, returns events]

/-- The task has ended before that. -/
def refetched (events : List RequestedEvent) : Keeper :=
  spawned.run twice (.finish event :: again events)

/-- The task is alive. -/
def overlapping (events : List RequestedEvent) : Keeper :=
  spawned.run twice (again events ++ [.insert .backlog])

end Sample

/-! ### Trying again -/

section Retries

variable {k₁ : Keeper} {worker : Worker} {passes : List BlockRange} {event : RequestedEvent}

/-- The next event of a scanner gets a task if its number is new. -/
theorem step_insert_new (entering : k.scanner worker = ⟨passes, event :: events⟩)
    (unknown : event.sequenceNumber ∉ k.fulfilledRequestsCache) :
    k.step config (.insert worker) = (k.setScanner worker ⟨passes, events⟩).spawn event := by
  simp only [step, entering]
  exact if_neg unknown

/-- Otherwise it gets none. -/
theorem step_insert_known (entering : k.scanner worker = ⟨passes, event :: events⟩)
    (known : event.sequenceNumber ∈ k.fulfilledRequestsCache) :
    k.step config (.insert worker) = k.setScanner worker ⟨passes, events⟩ := by
  simp only [step, entering]
  exact if_pos known

theorem step_insert_spawned_iff (entering : k.scanner worker = ⟨passes, event :: events⟩) :
    (k.step config (.insert worker)).spawned = event :: k.spawned ↔
      event.sequenceNumber ∉ k.fulfilledRequestsCache := by
  by_cases known : event.sequenceNumber ∈ k.fulfilledRequestsCache
  · rw [step_insert_known entering known]
    exact ⟨fun same => absurd same (List.cons_ne_self _ _).symm, fun unknown => absurd known unknown⟩
  · rw [step_insert_new entering known]
    exact ⟨fun _ => known, fun _ => rfl⟩

/-- **What becomes of a number in the cache** while its task is not spawned again. -/
structure Kept (n : ℕ) (k₀ k : Keeper) (newer : List (BlockRange × List RequestedEvent))
    (others : List RequestedEvent) : Prop where
  fetched : k.fetched = newer ++ k₀.fetched
  spawned : k.spawned = others ++ k₀.spawned
  cached : (∀ other ∈ others, other.sequenceNumber ≠ n) →
    (n ∈ k.fulfilledRequestsCache ↔ ∀ batch ∈ newer, ¬ Prunes batch.2 n)

theorem Kept.effect {k₀ : Keeper} {newer : List (BlockRange × List RequestedEvent)}
    {others : List RequestedEvent} (kept : Kept n k₀ k newer others)
    (effect : Effect config k action k') : ∃ newer' others', Kept n k₀ k' newer' others' := by
  obtain ⟨fetched, spawned, cached⟩ := kept
  cases effect with
  | @fetched worker _ currentBlock lastBlock later events _ _ _ =>
    refine ⟨(nextBatch currentBlock lastBlock, events) :: newer, others, ?_, spawned, fun single => ?_⟩
    · rw [Keeper.fetch, fetched]
      rfl
    · show n ∈ pruneCache k.fulfilledRequestsCache events ↔ _
      rw [mem_pruneCache, cached single, List.forall_mem_cons]
      exact and_comm
  | @spawned worker passes event events _ _ =>
    refine ⟨newer, event :: others, fetched, ?_, fun single => ?_⟩
    · rw [Keeper.spawn, List.cons_append, ← spawned]
      rfl
    · obtain ⟨different, rest⟩ := List.forall_mem_cons.mp single
      show n ∈ insert event.sequenceNumber k.fulfilledRequestsCache ↔ _
      rw [Finset.mem_insert, or_iff_right different.symm]
      exact cached rest
  | idle _ => exact ⟨newer, others, fetched, spawned, cached⟩
  | watched _ => exact ⟨newer, others, fetched, spawned, cached⟩
  | received _ _ => exact ⟨newer, others, fetched, spawned, cached⟩
  | givenUp _ _ => exact ⟨newer, others, fetched, spawned, cached⟩
  | passed _ _ => exact ⟨newer, others, fetched, spawned, cached⟩
  | known _ _ => exact ⟨newer, others, fetched, spawned, cached⟩
  | finished => exact ⟨newer, others, fetched, spawned, cached⟩

/-- **When a request is tried again.** The task of an event is spawned; later, whatever has become of
that task and while no other task was spawned for its number, the event has been fetched again and is
to be entered. A new task is spawned for it exactly if some batch that was fetched in between returned
a number more than the retention window above it. -/
theorem retried_iff {worker₁ : Worker} {passes₁ : List BlockRange} {events₁ : List RequestedEvent}
    (entering : k₁.scanner worker₁ = ⟨passes₁, event :: events₁⟩)
    (unknown : event.sequenceNumber ∉ k₁.fulfilledRequestsCache)
    (later : Reaches config (k₁.step config (.insert worker₁)) k)
    {newer : List (BlockRange × List RequestedEvent)} (fetched : k.fetched = newer ++ k₁.fetched)
    {others : List RequestedEvent} (spawned : k.spawned = others ++ event :: k₁.spawned)
    (single : ∀ other ∈ others, other.sequenceNumber ≠ event.sequenceNumber)
    (again : k.scanner worker = ⟨passes, event :: events⟩) :
    (k.step config (.insert worker)).spawned = event :: k.spawned ↔
      ∃ batch ∈ newer, Prunes batch.2 event.sequenceNumber := by
  rw [step_insert_new entering unknown] at later
  have start : Kept event.sequenceNumber ((k₁.setScanner worker₁ ⟨passes₁, events₁⟩).spawn event)
      ((k₁.setScanner worker₁ ⟨passes₁, events₁⟩).spawn event) [] [] := by
    refine ⟨rfl, rfl, fun _ => iff_of_true ?_ fun batch member => absurd member List.not_mem_nil⟩
    exact Finset.mem_insert_self _ _
  obtain ⟨newer', others', kept⟩ := later.preserves (P := fun k' => ∃ newer others,
    Kept event.sequenceNumber ((k₁.setScanner worker₁ ⟨passes₁, events₁⟩).spawn event) k' newer
      others) (fun ⟨_, _, kept⟩ effect => kept.effect effect) ⟨[], [], start⟩
  have sameBatches : newer' = newer :=
    List.append_cancel_right (kept.fetched.symm.trans fetched)
  have sameTasks : others' = others :=
    List.append_cancel_right (kept.spawned.symm.trans spawned)
  subst sameBatches sameTasks
  rw [step_insert_spawned_iff again, kept.cached single]
  simp only [not_forall, not_not, exists_prop]

theorem retried_iff_pruned :
    ((Sample.refetched [Sample.event, Sample.distant]).step Sample.twice
      (.insert .backlog)).spawned = [Sample.event, Sample.event] := by
  have later : Reaches Sample.twice (Sample.entering.step Sample.twice (.insert .backlog))
      (Sample.refetched [Sample.event, Sample.distant]) :=
    reaches_run _ Sample.spawned _
  have entering : Sample.entering.scanner .backlog = ⟨[⟨11, 10⟩, ⟨5, 10⟩], [Sample.event]⟩ := by
    decide +kernel
  have again : (Sample.refetched [Sample.event, Sample.distant]).scanner .backlog =
      ⟨[⟨11, 10⟩], [Sample.event, Sample.distant]⟩ := by decide +kernel
  have fetched : (Sample.refetched [Sample.event, Sample.distant]).fetched =
      [(⟨5, 10⟩, [Sample.event, Sample.distant])] ++ Sample.entering.fetched := by decide +kernel
  have spawned : (Sample.refetched [Sample.event, Sample.distant]).spawned =
      [] ++ Sample.event :: Sample.entering.spawned := by decide +kernel
  exact (retried_iff entering (by decide +kernel) later fetched spawned (by decide) again).mpr
    (by decide)

/-- **A request is not tried again.** Its task has ended, its event is fetched again by the delayed
pass, and no new task is spawned. -/
theorem not_retried :
    Reaches Sample.twice (start Sample.twice 10) Sample.spawned ∧
    Sample.spawned.tasks = [Sample.event] ∧
    Reaches Sample.twice Sample.spawned (Sample.refetched [Sample.event]) ∧
    (Sample.refetched [Sample.event]).tasks = [] ∧
    (Sample.refetched [Sample.event]).scanner .backlog = ⟨[⟨11, 10⟩], [Sample.event]⟩ ∧
    ((Sample.refetched [Sample.event]).step Sample.twice (.insert .backlog)).tasks = [] ∧
    ((Sample.refetched [Sample.event]).step Sample.twice (.insert .backlog)).spawned =
      (Sample.refetched [Sample.event]).spawned := by
  have first : Reaches Sample.twice (start Sample.twice 10) Sample.spawned :=
    reaches_run _ (start Sample.twice 10) [Sample.returns [Sample.event], .insert .backlog]
  have later : Reaches Sample.twice Sample.spawned (Sample.refetched [Sample.event]) :=
    reaches_run _ Sample.spawned _
  exact ⟨first, by decide +kernel, later, by decide +kernel, by decide +kernel, by decide +kernel,
    by decide +kernel⟩

end Retries

/-! ### One task for each number -/

/-- **A careful step**: if it fetches events, they prune no number whose task is alive. -/
def Careful (config : KeeperConfig) (k : Keeper) : KeeperAction → Prop
  | .fetch _ attempts => ∀ events, fetchEvents config.fallback attempts = some events →
      ∀ task ∈ k.tasks, ¬ Prunes events task.sequenceNumber
  | _ => True

/-- A run of careful steps. -/
inductive CarefulRun (config : KeeperConfig) (k₀ : Keeper) : Keeper → Prop
  | refl : CarefulRun config k₀ k₀
  | step {k : Keeper} (action : KeeperAction) : CarefulRun config k₀ k → Careful config k action →
      CarefulRun config k₀ (k.step config action)

/-- No number has two tasks alive, and the numbers of the tasks that are alive are in the cache. -/
structure Single (k : Keeper) : Prop where
  nodup : (k.tasks.map RequestedEvent.sequenceNumber).Nodup
  cached : ∀ task ∈ k.tasks, task.sequenceNumber ∈ k.fulfilledRequestsCache

theorem Single.effect (single : Single k) (careful : Careful config k action)
    (effect : Effect config k action k') : Single k' := by
  obtain ⟨nodup, cached⟩ := single
  cases effect with
  | fetched _ _ found =>
    exact ⟨nodup, fun task alive => mem_pruneCache.mpr
      ⟨cached task alive, careful _ found task alive⟩⟩
  | @spawned worker passes event events _ unknown =>
    refine ⟨List.nodup_cons.mpr ⟨?_, nodup⟩, fun task alive => ?_⟩
    · -- a number that is new in the cache has no task
      rintro member
      obtain ⟨task, alive, same⟩ := List.mem_map.mp member
      exact unknown (same ▸ cached task alive)
    · rcases List.mem_cons.mp alive with rfl | alive
      · exact Finset.mem_insert_self _ _
      · exact Finset.mem_insert_of_mem (cached task alive)
  | finished =>
    exact ⟨nodup.sublist (List.erase_sublist.map _),
      fun task alive => cached task (List.mem_of_mem_erase alive)⟩
  | idle _ => exact ⟨nodup, cached⟩
  | watched _ => exact ⟨nodup, cached⟩
  | received _ _ => exact ⟨nodup, cached⟩
  | givenUp _ _ => exact ⟨nodup, cached⟩
  | passed _ _ => exact ⟨nodup, cached⟩
  | known _ _ => exact ⟨nodup, cached⟩

/-- **At most one task for each number**, in every run whose fetched events never prune the number of
a task that is alive. -/
theorem tasks_nodup {latestSafeBlock : UInt64}
    (run : CarefulRun config (start config latestSafeBlock) k) :
    (k.tasks.map RequestedEvent.sequenceNumber).Nodup := by
  suffices single : Single k from single.nodup
  induction run with
  | refl => exact ⟨List.nodup_nil, fun _ alive => absurd alive List.not_mem_nil⟩
  | step action _ careful ih => exact ih.effect careful (step_effect action)

theorem tasks_nodup_overlapping :
    ((Sample.overlapping [Sample.event]).tasks.map RequestedEvent.sequenceNumber).Nodup := by
  have careful : ∀ k : Keeper, (∀ task ∈ k.tasks, ¬ Prunes [Sample.event] task.sequenceNumber) →
      Careful Sample.twice k (Sample.returns [Sample.event]) := by
    rintro k spares events found
    cases found
    exact spares
  have fetched : CarefulRun Sample.twice (start Sample.twice 10) Sample.entering :=
    .step (Sample.returns [Sample.event]) .refl
      (careful _ fun _ alive => absurd alive List.not_mem_nil)
  have spawned : CarefulRun Sample.twice (start Sample.twice 10) Sample.spawned :=
    .step (.insert .backlog) fetched trivial
  have passed := spawned.step (.endPass .backlog) trivial
  have again := passed.step (Sample.returns [Sample.event]) (careful _ (by decide +kernel))
  exact tasks_nodup (again.step (.insert .backlog) trivial)

/-- **Two tasks for one number.** A batch returns the event again, with a distant one, while its task
is alive. -/
theorem two_tasks :
    Reaches Sample.twice (start Sample.twice 10)
      (Sample.overlapping [Sample.event, Sample.distant]) ∧
    (Sample.overlapping [Sample.event, Sample.distant]).tasks = [Sample.event, Sample.event] := by
  have first : Reaches Sample.twice (start Sample.twice 10) Sample.spawned :=
    reaches_run _ (start Sample.twice 10) [Sample.returns [Sample.event], .insert .backlog]
  have later : Reaches Sample.twice Sample.spawned
      (Sample.overlapping [Sample.event, Sample.distant]) :=
    reaches_run _ Sample.spawned _
  exact ⟨first.trans later, by decide +kernel⟩

end Dice.Keeper
