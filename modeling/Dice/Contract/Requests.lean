/-
**The request table in every run.**

* `Sound` — the invariant of every world: the table is well formed, every active request has a
  sequence number below its provider's counter, waits for a callback, and uses no block hash.
* `Keeps` — what any half of a call does to the requests that existed before: it may remove them and
  change their callback status, and nothing else. No sequence number is used twice.
* `Advances` — in addition, requests that are in progress stay untouched. First halves do this.
* `Evolves` — in addition, no request is newly in progress. Whole calls do this, whatever is called
  in between.
* `requests_rely` — the proof obligations of a call, from which `Reachable.sound` and
  `Reachable.nested` follow. Every later invariant is an extension of it.

The last condition of `Keeps` is about the slots alone: a request that existed before never comes
to stand in a slot where it did not stand before. It decides which requests a storage pointer that
was taken before a callback may name after it.
-/

import Dice.Contract.Effects

set_option linter.unusedSectionVars false

namespace Dice

variable {Bytes32 : Type} (K : Keccak Bytes32) [DecidableEq Bytes32]

/-! ### The table after each kind of write -/

section Tables

variable {K} {s : State Bytes32} (wf : (requestScheme K).WellFormed s.table)

theorem State.setProvider_providers (s : State Bytes32) (provider other : Address)
    (info : ProviderInfo Bytes32) :
    (s.setProvider provider info).providers other =
      if other = provider then info else s.providers other :=
  Function.update_apply _ _ _ _

/-- The same table, the same map. -/
theorem State.lookup_congr {s s' : State Bytes32} (same : s'.table = s.table) :
    s'.lookup K = s.lookup K := by
  unfold State.lookup
  rw [same]

include wf

/-- Writing a status changes the record behind the pointer, whichever it is. -/
theorem State.lookup_setCallbackStatus (ref : RequestRef Bytes32) (status : CallbackStatus)
    (key : RequestKey) :
    (s.setCallbackStatus ref status).lookup K key =
      if (s.read ref).key = some key then some { s.read ref with callbackStatus := status }
      else s.lookup K key := by
  have same : (requestScheme K).keyOf { s.read ref with callbackStatus := status } =
      (requestScheme K).keyOf (s.table.read ref) := rfl
  exact SlotTable.Scheme.lookup_modify wf same key

theorem State.wellFormed_setCallbackStatus (ref : RequestRef Bytes32) (status : CallbackStatus) :
    (requestScheme K).WellFormed (s.setCallbackStatus ref status).table := by
  have same : (requestScheme K).keyOf { s.read ref with callbackStatus := status } =
      (requestScheme K).keyOf (s.table.read ref) := rfl
  exact wf.modify same

end Tables

/-! ### The invariant -/

/-- A sequence number that the provider's counter has passed: assigned to a request, or skipped. -/
def World.Used (w : World Bytes32) (key : RequestKey) : Prop :=
  key.2 < (w.state.providers key.1).sequenceNumber

/-- No counter goes down. -/
def World.CountsUp (w w' : World Bytes32) : Prop :=
  ∀ provider, (w.state.providers provider).sequenceNumber ≤
    (w'.state.providers provider).sequenceNumber

/-- **The invariant of the request table.** -/
structure Sound (w : World Bytes32) : Prop where
  wf : (requestScheme K).WellFormed w.state.table
  used : ∀ {key req}, w.state.lookup K key = some req → w.Used key
  withCallback : ∀ {key req}, w.state.lookup K key = some req → req.callbackStatus ≠ .notNecessary
  noBlockhash : ∀ {key req}, w.state.lookup K key = some req → req.useBlockhash = false

/-- Two records that differ at most in the callback status. -/
def Request.Same (req req' : Request Bytes32) : Prop :=
  req' = { req with callbackStatus := req'.callbackStatus }

theorem Request.Same.refl (req : Request Bytes32) : req.Same req := rfl

theorem Request.Same.trans {a b c : Request Bytes32} (first : a.Same b) (second : b.Same c) :
    a.Same c := by
  unfold Request.Same at first second ⊢
  rw [second, first]

theorem Request.Same.setStatus (req : Request Bytes32) (status : CallbackStatus) :
    req.Same { req with callbackStatus := status } := rfl

/-- No request is new, and none changes but in its status. -/
def Narrows (w w' : World Bytes32) : Prop :=
  ∀ ⦃key req'⦄, w'.state.lookup K key = some req' →
    ∃ req, w.state.lookup K key = some req ∧ req.Same req'

/-- **What every half of a call keeps.** -/
structure Keeps (w w' : World Bytes32) : Prop where
  counter : w.CountsUp w'
  request : ∀ {key req'}, w.Used key → w'.state.lookup K key = some req' →
    ∃ req, w.state.lookup K key = some req ∧ req.Same req'
  slot : ∀ {index key}, w.Used key → (w'.state.requests index).key = some key →
    (w.state.requests index).key = some key
  history : w.history <:+ w'.history

/-- What first halves keep: requests in progress are left alone. -/
structure Advances (w w' : World Bytes32) : Prop extends Keeps K w w' where
  locked : ∀ {key req req'}, w.Used key → w.state.lookup K key = some req →
    req.callbackStatus = .inProgress → w'.state.lookup K key = some req' → req' = req

/-- What whole calls keep: no request is newly in progress. -/
structure Evolves (w w' : World Bytes32) : Prop extends Advances K w w' where
  settled : ∀ {key req'}, w'.state.lookup K key = some req' → req'.callbackStatus = .inProgress →
    ∃ req, w.state.lookup K key = some req ∧ req.callbackStatus = .inProgress

section Relations

variable {K} {u v w w' : World Bytes32}

theorem World.Used.mono {key : RequestKey}
    (counter : w.CountsUp w') (used : w.Used key) : w'.Used key :=
  Nat.lt_of_lt_of_le used (counter key.1)

theorem Keeps.trans (first : Keeps K u v) (second : Keeps K v w) : Keeps K u w where
  counter provider := Nat.le_trans (first.counter provider) (second.counter provider)
  request := by
    intro key req'' used found
    obtain ⟨req', found', same'⟩ := second.request (used.mono first.counter) found
    obtain ⟨req, found, same⟩ := first.request used found'
    exact ⟨req, found, same.trans same'⟩
  slot used live := first.slot used (second.slot (used.mono first.counter) live)
  history := first.history.trans second.history

theorem Advances.trans (first : Advances K u v) (second : Advances K v w) : Advances K u w where
  toKeeps := first.toKeeps.trans second.toKeeps
  locked := by
    intro key req req'' used found inProgress found''
    obtain ⟨req', found', _⟩ := second.request (used.mono first.counter) found''
    have same := first.locked used found inProgress found'
    subst same
    exact second.locked (used.mono first.counter) found' inProgress found''

theorem Evolves.trans (first : Evolves K u v) (second : Evolves K v w) : Evolves K u w where
  toAdvances := first.toAdvances.trans second.toAdvances
  settled := by
    intro key req'' found inProgress
    obtain ⟨req', found', inProgress'⟩ := second.settled found inProgress
    exact first.settled found' inProgress'

/-! ### The three ways the table changes

Every half leaves the table alone, removes a request, stores a new one or writes a status. -/

/-- The table stays. -/
theorem Evolves.of_same (same : w'.state.table = w.state.table)
    (counter : w.CountsUp w')
    (history : w.history <:+ w'.history) : Evolves K w w' where
  counter := counter
  history := history
  request := by
    intro key req' _ found
    rw [State.lookup_congr same] at found
    exact ⟨req', found, .refl _⟩
  slot := by
    intro index key _ live
    have slots : w'.state.requests = w.state.requests := congrArg SlotTable.Table.slots same
    rw [← slots]
    exact live
  locked := by
    intro key req req' _ found _ found'
    rw [State.lookup_congr same, found] at found'
    exact (Option.some.inj found').symm
  settled := by
    intro key req' found inProgress
    rw [State.lookup_congr same] at found
    exact ⟨req', found, inProgress⟩

theorem Evolves.refl (w : World Bytes32) : Evolves K w w :=
  .of_same rfl (fun _ => Nat.le_refl _) (List.suffix_refl _)

theorem Sound.of_same (sound : Sound K w) (same : w'.state.table = w.state.table)
    (counter : w.CountsUp w') : Sound K w' where
  wf := same ▸ sound.wf
  used := by
    intro key req found
    rw [State.lookup_congr same] at found
    exact (sound.used found).mono counter
  withCallback := by
    intro key req found
    rw [State.lookup_congr same] at found
    exact sound.withCallback found
  noBlockhash := by
    intro key req found
    rw [State.lookup_congr same] at found
    exact sound.noBlockhash found

/-- A request is removed. -/
theorem lookup_of_removed (wf : (requestScheme K).WellFormed w.state.table) {gone : RequestKey}
    (removed : w'.state.table = (requestScheme K).remove w.state.table gone) :
    w'.state.lookup K = Function.update (w.state.lookup K) gone none := by
  have lookup := SlotTable.Scheme.lookup_remove wf gone
  rw [← removed] at lookup
  exact lookup

theorem found_of_removed (wf : (requestScheme K).WellFormed w.state.table) {gone key : RequestKey}
    {req : Request Bytes32}
    (removed : w'.state.table = (requestScheme K).remove w.state.table gone)
    (found : w'.state.lookup K key = some req) : key ≠ gone ∧ w.state.lookup K key = some req := by
  rw [lookup_of_removed wf removed, Function.update_apply] at found
  split at found
  · cases found
  · next other => exact ⟨other, found⟩

theorem Evolves.of_removed (wf : (requestScheme K).WellFormed w.state.table) {gone : RequestKey}
    (removed : w'.state.table = (requestScheme K).remove w.state.table gone)
    (counter : w.CountsUp w')
    (history : w.history <:+ w'.history) : Evolves K w w' where
  counter := counter
  history := history
  request := by
    intro key req' _ found
    exact ⟨req', (found_of_removed wf removed found).2, .refl _⟩
  slot := by
    intro index key _ live
    have slots : w'.state.requests = ((requestScheme K).remove w.state.table gone).slots :=
      congrArg SlotTable.Table.slots removed
    rw [slots] at live
    have live' : (requestScheme K).keyOf
        (((requestScheme K).remove w.state.table gone).slots index) = some key := live
    exact SlotTable.Scheme.slots_remove live'
  locked := by
    intro key req req' _ found _ found'
    have found'' := (found_of_removed wf removed found').2
    rw [found] at found''
    exact (Option.some.inj found'').symm
  settled := by
    intro key req' found inProgress
    exact ⟨req', (found_of_removed wf removed found).2, inProgress⟩

theorem Sound.of_removed (sound : Sound K w) {gone : RequestKey}
    (removed : w'.state.table = (requestScheme K).remove w.state.table gone)
    (counter : w.CountsUp w') : Sound K w' where
  wf := removed ▸ sound.wf.remove gone
  used := fun found => (sound.used (found_of_removed sound.wf removed found).2).mono counter
  withCallback := fun found => sound.withCallback (found_of_removed sound.wf removed found).2
  noBlockhash := fun found => sound.noBlockhash (found_of_removed sound.wf removed found).2

/-- Both facts about a half that leaves the table alone. -/
theorem Sound.evolve_same (sound : Sound K w) (same : w'.state.table = w.state.table)
    (counter : w.CountsUp w') (history : w.history <:+ w'.history) :
    Sound K w' ∧ Evolves K w w' :=
  ⟨sound.of_same same counter, .of_same same counter history⟩

/-- Both facts about a half that removes a request. -/
theorem Sound.evolve_removed (sound : Sound K w) {gone : RequestKey}
    (removed : w'.state.table = (requestScheme K).remove w.state.table gone)
    (counter : w.CountsUp w') (history : w.history <:+ w'.history) :
    Sound K w' ∧ Evolves K w w' :=
  ⟨sound.of_removed removed counter, .of_removed sound.wf removed counter history⟩

/-- Nothing is stored under a number that was not used. -/
theorem Sound.fresh_none (sound : Sound K w) {key : RequestKey} (fresh : ¬ w.Used key) :
    w.state.lookup K key = none := by
  by_contra present
  obtain ⟨old, present⟩ := Option.ne_none_iff_exists'.mp present
  exact fresh (sound.used present)

theorem Narrows.of_same (same : w'.state.table = w.state.table) : Narrows K w w' := by
  intro key req' found
  rw [State.lookup_congr same] at found
  exact ⟨req', found, .refl _⟩

theorem Narrows.of_removed (wf : (requestScheme K).WellFormed w.state.table) {gone : RequestKey}
    (removed : w'.state.table = (requestScheme K).remove w.state.table gone) : Narrows K w w' :=
  fun _ _ found => ⟨_, (found_of_removed wf removed found).2, .refl _⟩

theorem Narrows.trans (first : Narrows K u v) (second : Narrows K v w) : Narrows K u w := by
  intro key req'' found
  obtain ⟨req', found', same'⟩ := second found
  obtain ⟨req, found, same⟩ := first found'
  exact ⟨req, found, same.trans same'⟩

/-- A request is stored under the number the provider's counter stands at. -/
theorem found_of_stored (sound : Sound K w) {made key : RequestKey} {req new : Request Bytes32}
    (fresh : ¬ w.Used made) (new_key : new.key = some made)
    (stored : w'.state.table = (requestScheme K).store w.state.table made new)
    (found : w'.state.lookup K key = some req) :
    key = made ∧ req = new ∨ key ≠ made ∧ w.state.lookup K key = some req := by
  have absent : (requestScheme K).lookup w.state.table made = none := sound.fresh_none fresh
  have lookup := (SlotTable.Scheme.store_spec sound.wf absent new_key).2
  rw [← stored] at lookup
  have found' : (requestScheme K).lookup w'.state.table key = some req := found
  rw [lookup, Function.update_apply] at found'
  split at found'
  · next same => exact .inl ⟨same, (Option.some.inj found').symm⟩
  · next other => exact .inr ⟨other, found'⟩

theorem Evolves.of_stored (sound : Sound K w) {made : RequestKey} {new : Request Bytes32}
    (fresh : ¬ w.Used made) (new_key : new.key = some made) (status : new.callbackStatus = .notStarted)
    (stored : w'.state.table = (requestScheme K).store w.state.table made new)
    (counter : w.CountsUp w')
    (history : w.history <:+ w'.history) : Evolves K w w' where
  counter := counter
  history := history
  request := by
    intro key req' used found
    rcases found_of_stored sound fresh new_key stored found with ⟨rfl, _⟩ | ⟨_, found⟩
    · exact absurd used fresh
    · exact ⟨req', found, .refl _⟩
  slot := by
    intro index key used live
    have slots : w'.state.requests = ((requestScheme K).store w.state.table made new).slots :=
      congrArg SlotTable.Table.slots stored
    rw [slots] at live
    have live' : (requestScheme K).keyOf
        (((requestScheme K).store w.state.table made new).slots index) = some key := live
    rcases SlotTable.Scheme.slots_store new_key live' with rfl | live
    · exact absurd used fresh
    · exact live
  locked := by
    intro key req req' used found _ found'
    rcases found_of_stored sound fresh new_key stored found' with ⟨rfl, _⟩ | ⟨_, found'⟩
    · exact absurd used fresh
    · exact Option.some.inj (found'.symm.trans found)
  settled := by
    intro key req' found inProgress
    rcases found_of_stored sound fresh new_key stored found with ⟨_, rfl⟩ | ⟨_, found⟩
    · rw [status] at inProgress
      cases inProgress
    · exact ⟨req', found, inProgress⟩

theorem Sound.of_stored (sound : Sound K w) {made : RequestKey} {new : Request Bytes32}
    (fresh : ¬ w.Used made) (new_key : new.key = some made) (status : new.callbackStatus = .notStarted)
    (plain : new.useBlockhash = false) (used : w'.Used made)
    (stored : w'.state.table = (requestScheme K).store w.state.table made new)
    (counter : w.CountsUp w') : Sound K w' where
  wf := by
    have absent : (requestScheme K).lookup w.state.table made = none := sound.fresh_none fresh
    exact stored ▸ (SlotTable.Scheme.store_spec sound.wf absent new_key).1
  used := by
    intro key req found
    rcases found_of_stored sound fresh new_key stored found with ⟨rfl, _⟩ | ⟨_, found⟩
    · exact used
    · exact (sound.used found).mono counter
  withCallback := by
    intro key req found
    rcases found_of_stored sound fresh new_key stored found with ⟨_, rfl⟩ | ⟨_, found⟩
    · rw [status]
      exact nofun
    · exact sound.withCallback found
  noBlockhash := by
    intro key req found
    rcases found_of_stored sound fresh new_key stored found with ⟨_, rfl⟩ | ⟨_, found⟩
    · exact plain
    · exact sound.noBlockhash found

/-- A status is written behind a pointer. -/
theorem found_of_status (wf : (requestScheme K).WellFormed w.state.table) {key : RequestKey}
    {ref : RequestRef Bytes32} {status : CallbackStatus} {req : Request Bytes32}
    (written : w'.state.table = (w.state.setCallbackStatus ref status).table)
    (found : w'.state.lookup K key = some req) :
    ((w.state.read ref).key = some key ∧ w.state.lookup K key = some (w.state.read ref) ∧
        req = { w.state.read ref with callbackStatus := status }) ∨
      (w.state.read ref).key ≠ some key ∧ w.state.lookup K key = some req := by
  rw [State.lookup_congr written, State.lookup_setCallbackStatus wf] at found
  split at found
  · next here =>
    have live : (requestScheme K).keyOf (w.state.table.read ref) = some key := here
    exact .inl ⟨here, SlotTable.Scheme.lookup_of_live wf live, (Option.some.inj found).symm⟩
  · next other => exact .inr ⟨other, found⟩

theorem Narrows.of_status (wf : (requestScheme K).WellFormed w.state.table)
    {ref : RequestRef Bytes32} {status : CallbackStatus}
    (written : w'.state.table = (w.state.setCallbackStatus ref status).table) :
    Narrows K w w' := by
  intro key req' found
  rcases found_of_status wf written found with ⟨_, before, rfl⟩ | ⟨_, before⟩
  · exact ⟨_, before, .setStatus _ _⟩
  · exact ⟨req', before, .refl _⟩

theorem Keeps.of_status (wf : (requestScheme K).WellFormed w.state.table)
    {ref : RequestRef Bytes32} {status : CallbackStatus}
    (written : w'.state.table = (w.state.setCallbackStatus ref status).table)
    (counter : w.CountsUp w')
    (history : w.history <:+ w'.history) : Keeps K w w' where
  counter := counter
  history := history
  request _ found := Narrows.of_status wf written found
  slot := by
    intro index key _ live
    have slots : w'.state.requests = (w.state.setCallbackStatus ref status).table.slots :=
      congrArg SlotTable.Table.slots written
    have same : (requestScheme K).keyOf { w.state.read ref with callbackStatus := status } =
        (requestScheme K).keyOf (w.state.table.read ref) := rfl
    have kept := SlotTable.Scheme.slots_modify same index
    rw [slots] at live
    exact kept.symm.trans live

/-- The record behind the pointer was not in progress. -/
theorem Advances.of_status (wf : (requestScheme K).WellFormed w.state.table)
    {ref : RequestRef Bytes32} {status : CallbackStatus}
    (free : (w.state.read ref).callbackStatus ≠ .inProgress)
    (written : w'.state.table = (w.state.setCallbackStatus ref status).table)
    (counter : w.CountsUp w')
    (history : w.history <:+ w'.history) : Advances K w w' where
  toKeeps := .of_status wf written counter history
  locked := by
    intro key req req' _ found inProgress found'
    rcases found_of_status wf written found' with ⟨_, found', _⟩ | ⟨_, found'⟩
    · rw [found] at found'
      cases found'
      exact absurd inProgress free
    · exact Option.some.inj (found'.symm.trans found)

theorem Sound.of_status (sound : Sound K w) {ref : RequestRef Bytes32} {status : CallbackStatus}
    (proper : status ≠ .notNecessary)
    (written : w'.state.table = (w.state.setCallbackStatus ref status).table)
    (counter : w.CountsUp w') : Sound K w' where
  wf := written ▸ State.wellFormed_setCallbackStatus sound.wf ref status
  used := by
    intro key req found
    rcases found_of_status sound.wf written found with ⟨_, found, _⟩ | ⟨_, found⟩
    · exact (sound.used found).mono counter
    · exact (sound.used found).mono counter
  withCallback := by
    intro key req found
    rcases found_of_status sound.wf written found with ⟨_, _, rfl⟩ | ⟨_, found⟩
    · exact proper
    · exact sound.withCallback found
  noBlockhash := by
    intro key req found
    rcases found_of_status sound.wf written found with ⟨_, before, same⟩ | ⟨_, before⟩
    · have plain := sound.noBlockhash before
      rw [same]
      exact plain
    · exact sound.noBlockhash before

end Relations

/-! ### Every half of every call -/

section Halves

variable {K} {m : Message Bytes32} {w w' : World Bytes32}

theorem World.countsUp_of_setProvider {provider : Address} {info : ProviderInfo Bytes32}
    (written : w'.state.providers = (w.state.setProvider provider info).providers)
    (le : (w.state.providers provider).sequenceNumber ≤ info.sequenceNumber) : w.CountsUp w' := by
  intro other
  rw [written, State.setProvider_providers]
  split
  · next same =>
    rw [same]
    exact le
  · exact Nat.le_refl _

theorem World.countsUp_of_same (same : w'.state.providers = w.state.providers) : w.CountsUp w' :=
  fun provider => Nat.le_of_eq (by rw [same])

theorem ProviderInfo.revealedAt_sequenceNumber (p : ProviderInfo Bytes32) (n : ℕ) (v : Bytes32) :
    (p.revealedAt n v).sequenceNumber = p.sequenceNumber := by
  unfold ProviderInfo.revealedAt
  split <;> rfl

/-- An accepted reveal leaves the registration alone. -/
theorem ProviderInfo.revealedAt_original (p : ProviderInfo Bytes32) (n : ℕ) (v : Bytes32) :
    (p.revealedAt n v).originalCommitment = p.originalCommitment := by
  unfold ProviderInfo.revealedAt
  split <;> rfl

theorem ProviderInfo.revealedAt_originalNumber (p : ProviderInfo Bytes32) (n : ℕ) (v : Bytes32) :
    (p.revealedAt n v).originalCommitmentSequenceNumber = p.originalCommitmentSequenceNumber := by
  unfold ProviderInfo.revealedAt
  split <;> rfl

theorem Configures.sameChain {p q : ProviderInfo Bytes32} {event : Event Bytes32}
    (configures : Configures m p q event) : q.SameChain p := by
  cases configures <;> exact ⟨rfl, rfl, rfl, rfl, rfl, rfl⟩

theorem Administers.table {s s' : State Bytes32} (administers : Administers m s s') :
    s'.table = s.table := by
  cases administers <;> rfl

theorem Administers.providers {s s' : State Bytes32} (administers : Administers m s s') :
    s'.providers = s.providers := by
  cases administers <;> rfl

theorem World.accepted_countsUp (w : World Bytes32) (provider : Address) (n : ℕ) (v : Bytes32) :
    w.CountsUp (w.accepted provider n v) :=
  World.countsUp_of_setProvider rfl (Nat.le_of_eq (ProviderInfo.revealedAt_sequenceNumber _ _ _).symm)

/-- The number a request gets is new, and used from then on. -/
theorem World.requested_fresh (w : World Bytes32) (provider : Address) :
    ¬ w.Used (provider, (w.state.providers provider).sequenceNumber) :=
  Nat.lt_irrefl _

theorem World.requested_countsUp (w : World Bytes32) (msg : Msg) (provider : Address) (u : Bytes32)
    (gasLimit10k : ℕ) : w.CountsUp (w.requested K msg provider u gasLimit10k) :=
  World.countsUp_of_setProvider rfl (Nat.le_succ _)

theorem World.requested_used (w : World Bytes32) (msg : Msg) (provider : Address) (u : Bytes32)
    (gasLimit10k : ℕ) : (w.requested K msg provider u gasLimit10k).Used
      (provider, (w.state.providers provider).sequenceNumber) := by
  show _ < ((w.state.setProvider provider _).providers provider).sequenceNumber
  rw [State.setProvider_providers, if_pos rfl]
  exact Nat.lt_succ_self _

theorem madeRequest_key (msg : Msg) {provider : Address} (u : Bytes32) (gasLimit10k : ℕ)
    (registered : (w.state.providers provider).sequenceNumber ≠ 0) :
    (madeRequest K w msg provider u gasLimit10k).key =
      some (provider, (w.state.providers provider).sequenceNumber) :=
  Request.key_eq_some.mpr ⟨rfl, rfl, registered⟩

/-- A new request is found under its number, and nothing else changes. -/
theorem lookup_requested (sound : Sound K w) (msg : Msg) {provider : Address} (u : Bytes32)
    (gasLimit10k : ℕ) (registered : (w.state.providers provider).sequenceNumber ≠ 0) :
    (w.requested K msg provider u gasLimit10k).state.lookup K =
      Function.update (w.state.lookup K) (provider, (w.state.providers provider).sequenceNumber)
        (some (madeRequest K w msg provider u gasLimit10k)) := by
  have absent : (requestScheme K).lookup w.state.table
      (provider, (w.state.providers provider).sequenceNumber) = none :=
    sound.fresh_none (w.requested_fresh provider)
  exact (SlotTable.Scheme.store_spec sound.wf absent
    (madeRequest_key msg u gasLimit10k registered)).2

/-- What is found then is the new request, or was found before. -/
theorem found_requested (sound : Sound K w) {msg : Msg} {provider : Address} {u : Bytes32}
    {gasLimit10k : ℕ} (registered : (w.state.providers provider).sequenceNumber ≠ 0)
    {key : RequestKey} {req : Request Bytes32}
    (found : (w.requested K msg provider u gasLimit10k).state.lookup K key = some req) :
    key = (provider, (w.state.providers provider).sequenceNumber) ∧
        req = madeRequest K w msg provider u gasLimit10k ∨
      key ≠ (provider, (w.state.providers provider).sequenceNumber) ∧
        w.state.lookup K key = some req := by
  rw [lookup_requested sound msg u gasLimit10k registered] at found
  by_cases made : key = (provider, (w.state.providers provider).sequenceNumber)
  · rw [made, Function.update_self] at found
    exact .inl ⟨made, (Option.some.inj found).symm⟩
  · rw [Function.update_of_ne made] at found
    exact .inr ⟨made, found⟩

/-- **Calls that finish at once** evolve the table. -/
theorem Finishes.evolves (sound : Sound K w) (finishes : Finishes K m w w') :
    Sound K w' ∧ Evolves K w w' := by
  cases finishes with
  | registered _ checks =>
    exact sound.evolve_same rfl (World.countsUp_of_setProvider rfl (Nat.le_succ _)) ⟨[_, _], rfl⟩
  | @requested provider u gasLimit gasLimit10k _ checks =>
    have fresh := w.requested_fresh provider
    have key := madeRequest_key (K := K) m.msg u gasLimit10k checks.registered
    have counter := w.requested_countsUp (K := K) m.msg provider u gasLimit10k
    exact ⟨sound.of_stored fresh key rfl rfl (w.requested_used m.msg provider u gasLimit10k) rfl
      counter, .of_stored sound fresh key rfl rfl counter ⟨[_, _], rfl⟩⟩
  | revealed _ checks status _ => exact absurd status (sound.withCallback checks.found)
  | @noCallback provider n _ _ _ v _ _ _ _ _ _ =>
    exact sound.evolve_removed rfl (w.accepted_countsUp provider n v) ⟨[_, _], rfl⟩
  | refundedNothing _ _ _ =>
    exact sound.evolve_removed rfl (World.countsUp_of_same rfl) ⟨[_], rfl⟩
  | advanced _ _ =>
    exact sound.evolve_same rfl (World.countsUp_of_setProvider rfl (Nat.le_max_left _ _))
      ⟨[_], rfl⟩
  | configured _ configures =>
    exact sound.evolve_same rfl (World.countsUp_of_setProvider rfl
      (Nat.le_of_eq configures.sameChain.sequenceNumber.symm)) ⟨[_], rfl⟩
  | administered administers =>
    exact sound.evolve_same administers.table (World.countsUp_of_same administers.providers)
      (List.suffix_refl _)
  | forced _ => exact sound.evolve_same rfl (World.countsUp_of_same rfl) ⟨[_], rfl⟩

/-- A reveal in the gas-limited branch. -/
def Pending.Limited : Pending Bytes32 → Prop
  | .limited .. => True
  | _ => False

variable {w₁ w₂ w₃ : World Bytes32} {pending : Pending Bytes32} {result : CallResult}

/-- Outside the gas-limited branch a first half is as good as a whole call. -/
theorem Calls.evolves (sound : Sound K w) (calls : Calls K m w w₁ pending)
    (other : ¬ pending.Limited) : Sound K w₁ ∧ Evolves K w w₁ := by
  cases calls with
  | limited _ _ _ _ => exact absurd trivial other
  | @unlimited provider n _ _ _ _ v _ _ _ _ _ =>
    exact sound.evolve_removed rfl (w.accepted_countsUp provider n v) ⟨[_, _], rfl⟩
  | refund _ _ _ _ _ => exact sound.evolve_removed rfl (World.countsUp_of_same rfl) ⟨[_], rfl⟩
  | withdrawal _ _ _ _ => exact sound.evolve_same rfl (World.countsUp_of_same rfl) ⟨[_], rfl⟩
  | foreign _ => exact ⟨sound, .refl w⟩

/-- The accepted reveal before its request is marked as in progress. -/
theorem accepted_evolves (sound : Sound K w) (provider : Address) (n : ℕ) (v : Bytes32) :
    Sound K (w.accepted provider n v) ∧ Evolves K w (w.accepted provider n v) :=
  sound.evolve_same rfl (w.accepted_countsUp provider n v) ⟨[_], rfl⟩

/-- **First halves** advance the table. -/
theorem Calls.advances (sound : Sound K w) (calls : Calls K m w w₁ pending) :
    Sound K w₁ ∧ Advances K w w₁ := by
  by_cases limited : pending.Limited
  · cases calls with
    | @limited provider n _ _ _ _ v req _ checks status _ =>
      obtain ⟨sound', evolves⟩ := accepted_evolves sound provider n v
      have free : ((w.accepted provider n v).state.read
          (findRequest K w.state provider n)).callbackStatus ≠ .inProgress := by
        have read : (w.accepted provider n v).state.read (findRequest K w.state provider n) = req :=
          read_findRequest checks.found
        rw [read, status]
        decide
      exact ⟨sound'.of_status (by decide) rfl (World.countsUp_of_same rfl),
        evolves.toAdvances.trans (.of_status sound'.wf free rfl (World.countsUp_of_same rfl)
          ⟨[_], rfl⟩)⟩
    | _ => cases limited
  · have both := calls.evolves sound limited
    exact ⟨both.1, both.2.toAdvances⟩

/-- The first half in the gas-limited branch: the kept pointer names the request, in progress. -/
theorem Calls.of_limited {ref : RequestRef Bytes32} {provider : Address} {n startingGas : ℕ}
    {u v random : Bytes32}
    (calls : Calls K m w w₁ (.limited ref provider n u v random startingGas)) :
    ∃ req, RevealChecks K w provider n u v req ∧ req.callbackStatus = .notStarted ∧
      req.gasLimit10k ≠ 0 ∧ ref = findRequest K w.state provider n ∧
      w₁.state.read ref = { req with callbackStatus := .inProgress } := by
  cases calls with
  | @limited _ _ _ _ _ _ _ req _ checks status limit =>
    have read : (w.accepted provider n v).state.read (findRequest K w.state provider n) = req :=
      read_findRequest checks.found
    refine ⟨req, checks, status, limit, rfl, ?_⟩
    rw [World.record_state, World.setState_state, State.read_setCallbackStatus, read]

/-- The same of a request that is known to be active. -/
theorem Calls.limited_found {ref : RequestRef Bytes32} {provider : Address} {n startingGas : ℕ}
    {u v random : Bytes32} {req : Request Bytes32}
    (calls : Calls K m w w₁ (.limited ref provider n u v random startingGas))
    (found : w.state.lookup K (provider, n) = some req) :
    RevealChecks K w provider n u v req ∧ req.callbackStatus = .notStarted ∧
      req.gasLimit10k ≠ 0 ∧ w₁.state.read ref = { req with callbackStatus := .inProgress } := by
  obtain ⟨req', checks, status, limit, _, read⟩ := calls.of_limited
  obtain rfl := checks.req_eq found
  exact ⟨checks, status, limit, read⟩

/-- Outside the gas-limited branch the rest of a call leaves the table alone. -/
theorem Resumes.evolves (sound : Sound K w₂) (resumes : Resumes K result w₂ pending w₃)
    (other : ¬ pending.Limited) : Sound K w₃ ∧ Evolves K w₂ w₃ := by
  cases resumes with
  | limitedDelivered _ _ _ => exact absurd trivial other
  | limitedFailed _ _ _ _ => exact absurd trivial other
  | unlimitedDelivered _ _ _ => exact sound.evolve_same rfl (World.countsUp_of_same rfl) ⟨[_, _], rfl⟩
  | unlimitedFailed _ _ _ => exact sound.evolve_same rfl (World.countsUp_of_same rfl) ⟨[_], rfl⟩
  | refund _ => exact sound.evolve_same rfl (World.countsUp_of_same rfl) ⟨[_], rfl⟩
  | withdrawal _ => exact ⟨sound, .refl _⟩
  | foreign _ => exact ⟨sound, .refl _⟩

/-- The world in which a status has been written. -/
def World.withStatus (w : World Bytes32) (ref : RequestRef Bytes32) (status : CallbackStatus) :
    World Bytes32 :=
  w.setState (w.state.setCallbackStatus ref status)

theorem Sound.withStatus (sound : Sound K w) (ref : RequestRef Bytes32) {status : CallbackStatus}
    (proper : status ≠ .notNecessary) : Sound K (w.withStatus ref status) :=
  sound.of_status proper rfl (World.countsUp_of_same rfl)

/-- **Second halves** keep the requests, even when the pointer names another one by now. -/
theorem Resumes.keeps (sound : Sound K w₂) (resumes : Resumes K result w₂ pending w₃) :
    Sound K w₃ ∧ Keeps K w₂ w₃ := by
  by_cases limited : pending.Limited
  · cases resumes with
    | @limitedDelivered ref provider n _ _ _ _ _ _ _ =>
      have sound' : Sound K (w₂.withStatus ref .notStarted) := sound.withStatus ref (by decide)
      have written : Keeps K w₂ (w₂.withStatus ref .notStarted) :=
        .of_status sound.wf rfl (World.countsUp_of_same rfl) (List.suffix_refl _)
      suffices both : Sound K _ ∧ Evolves K (w₂.withStatus ref .notStarted) _ from
        ⟨both.1, written.trans both.2.toKeeps⟩
      exact sound'.evolve_removed rfl (World.countsUp_of_same rfl) ⟨[_, _], rfl⟩
    | limitedFailed _ _ _ _ =>
      exact ⟨sound.of_status (by decide) rfl (World.countsUp_of_same rfl),
        .of_status sound.wf rfl (World.countsUp_of_same rfl) ⟨[_], rfl⟩⟩
    | _ => cases limited
  · have both := resumes.evolves sound limited
    exact ⟨both.1, both.2.toKeeps⟩

/-! Requests are made by `requestV2` alone; every other half narrows the table. -/

theorem Finishes.narrows (sound : Sound K w) (finishes : Finishes K m w w') :
    Narrows K w w' ∨ ∃ provider u gasLimit gasLimit10k,
      RequestChecks w m.msg provider gasLimit gasLimit10k ∧
        w' = w.requested K m.msg provider u gasLimit10k := by
  cases finishes with
  | requested _ checks => exact .inr ⟨_, _, _, _, checks, rfl⟩
  | registered _ _ => exact .inl (.of_same rfl)
  | revealed _ checks status _ => exact absurd status (sound.withCallback checks.found)
  | noCallback _ _ _ _ _ => exact .inl (.of_removed sound.wf rfl)
  | refundedNothing _ _ _ => exact .inl (.of_removed sound.wf rfl)
  | advanced _ _ => exact .inl (.of_same rfl)
  | configured _ _ => exact .inl (.of_same rfl)
  | administered administers => exact .inl (.of_same administers.table)
  | forced _ => exact .inl (.of_same rfl)

theorem Calls.narrows (sound : Sound K w) (calls : Calls K m w w₁ pending) : Narrows K w w₁ := by
  cases calls with
  | @limited provider n _ _ _ _ v _ _ _ _ _ =>
    obtain ⟨sound', _⟩ := accepted_evolves sound provider n v
    have accepted : Narrows K w (w.accepted provider n v) := .of_same rfl
    exact accepted.trans (.of_status sound'.wf rfl)
  | unlimited _ _ _ _ => exact .of_removed sound.wf rfl
  | refund _ _ _ _ _ => exact .of_removed sound.wf rfl
  | withdrawal _ _ _ _ => exact .of_same rfl
  | foreign _ => exact .of_same rfl

theorem Resumes.narrows (sound : Sound K w₂) (resumes : Resumes K result w₂ pending w₃) :
    Narrows K w₂ w₃ := by
  cases resumes with
  | @limitedDelivered ref provider n _ _ _ _ _ _ _ =>
    have sound' : Sound K (w₂.withStatus ref .notStarted) := sound.withStatus ref (by decide)
    have written : Narrows K w₂ (w₂.withStatus ref .notStarted) := .of_status sound.wf rfl
    exact written.trans (.of_removed sound'.wf rfl)
  | limitedFailed _ _ _ _ => exact .of_status sound.wf rfl
  | _ => exact .of_same rfl

/-- **What a kept pointer may name.** After any number of calls, the record behind a pointer that
was taken for one request is that request, or one that did not exist then. -/
theorem key_of_pointer (keeps : Keeps K w w₂) (sound₂ : Sound K w₂) {provider : Address} {n : ℕ}
    {req : Request Bytes32} (found : w.state.lookup K (provider, n) = some req) {key : RequestKey}
    (used : w.Used key)
    (live : (w₂.state.read (findRequest K w.state provider n)).key = some key) :
    key = (provider, n) := by
  have nonzero := nonzero_of_found found
  have here : (w.state.read (findRequest K w.state provider n)).key = some (provider, n) := by
    rw [read_findRequest found]
    exact SlotTable.Scheme.lookup_key found
  rw [findRequest_eq _ _ _ nonzero] at live here
  unfold SlotTable.Scheme.find at live here
  split at live
  · have before := keeps.slot used live
    rw [if_pos (by assumption)] at here
    exact Option.some.inj (before.symm.trans here)
  · exact SlotTable.Scheme.overflow_live sound₂.wf live

/-- The first half in the gas-limited branch leaves the other requests alone. -/
theorem found_of_limited (sound : Sound K w) {ref : RequestRef Bytes32} {provider : Address}
    {n startingGas : ℕ} {u v random : Bytes32}
    (calls : Calls K m w w₁ (.limited ref provider n u v random startingGas)) {key : RequestKey}
    {req : Request Bytes32} (different : key ≠ (provider, n))
    (found₁ : w₁.state.lookup K key = some req) : w.state.lookup K key = some req := by
  obtain ⟨sound', _⟩ := accepted_evolves sound provider n v
  cases calls with
  | limited _ checks _ _ =>
    rcases found_of_status sound'.wf rfl found₁ with ⟨live, _, _⟩ | ⟨_, before⟩
    · have read : (w.accepted provider n v).state.read (findRequest K w.state provider n) = _ :=
        read_findRequest checks.found
      rw [read] at live
      have named := live.symm.trans (SlotTable.Scheme.lookup_key checks.found)
      exact absurd (Option.some.inj named) different
    · exact before

/-- A request that is active after the gas-limited branch: either its status was written there, and
then it is the revealed request or a later one, or it is untouched. -/
theorem found_after_limited (sound₂ : Sound K w₂) (keeps : Keeps K w w₂) {provider : Address}
    {n startingGas : ℕ} {u v random : Bytes32} {req : Request Bytes32}
    (found : w.state.lookup K (provider, n) = some req)
    (resumes : Resumes K result w₂ (.limited (findRequest K w.state provider n) provider n u v
      random startingGas) w₃)
    (behind : result.success = false →
      (w₂.state.read (findRequest K w.state provider n)).key = some (provider, n))
    {key : RequestKey} {req₃ : Request Bytes32} (found₃ : w₃.state.lookup K key = some req₃) :
    ((w.Used key → key = (provider, n)) ∧ req₃.callbackStatus ≠ .inProgress) ∨
      (key ≠ (provider, n) ∧ w₂.state.lookup K key = some req₃) := by
  have named : w.Used key →
      (w₂.state.read (findRequest K w.state provider n)).key = some key → key = (provider, n) :=
    key_of_pointer keeps sound₂ found
  cases resumes with
  | limitedDelivered _ _ _ =>
    have sound' : Sound K (w₂.withStatus (findRequest K w.state provider n) .notStarted) :=
      sound₂.withStatus _ (by decide)
    obtain ⟨different, found'⟩ := found_of_removed sound'.wf rfl found₃
    rcases found_of_status sound₂.wf rfl found' with ⟨live, _, written⟩ | ⟨_, untouched⟩
    · refine .inl ⟨fun used => named used live, ?_⟩
      rw [written]
      exact nofun
    · exact .inr ⟨different, untouched⟩
  | limitedFailed failure _ _ _ =>
    rcases found_of_status sound₂.wf rfl found₃ with ⟨live, _, written⟩ | ⟨dead, untouched⟩
    · refine .inl ⟨fun used => named used live, ?_⟩
      rw [written]
      exact nofun
    · refine .inr ⟨?_, untouched⟩
      rintro rfl
      exact dead (behind failure)

/-- The gas-limited branch evolves the table. -/
theorem limited_evolves (sound : Sound K w) (calls : Calls K m w w₁ pending) (sound₂ : Sound K w₂)
    (between : Evolves K w₁ w₂) (resumes : Resumes K result w₂ pending w₃)
    (rolledBack : result.success = false → w₂ = w₁) (limited : pending.Limited) :
    Evolves K w w₃ := by
  have advances := (calls.advances sound).2.trans between.toAdvances
  have second := (resumes.keeps sound₂).2
  cases pending with
  | limited ref provider n u v random startingGas =>
    obtain ⟨req, checks, status, _, rfl, read₁⟩ := calls.of_limited
    have behind : result.success = false →
        (w₂.state.read (findRequest K w.state provider n)).key = some (provider, n) := by
      intro failure
      rw [rolledBack failure, read₁]
      exact SlotTable.Scheme.lookup_key checks.found
    refine ⟨⟨advances.toKeeps.trans second, ?_⟩, ?_⟩
    · intro key req' req'' used found' inProgress found''
      rcases found_after_limited sound₂ advances.toKeeps checks.found resumes behind found''
        with ⟨named, _⟩ | ⟨_, untouched⟩
      · rw [named used, checks.found] at found'
        cases found'
        rw [status] at inProgress
        cases inProgress
      · exact advances.locked used found' inProgress untouched
    · intro key req' found' inProgress
      rcases found_after_limited sound₂ advances.toKeeps checks.found resumes behind found'
        with ⟨_, done⟩ | ⟨different, untouched⟩
      · exact absurd inProgress done
      · obtain ⟨req₁, found₁, inProgress₁⟩ := between.settled untouched inProgress
        exact ⟨req₁, found_of_limited sound calls different found₁, inProgress₁⟩
  | _ => cases limited

/-- **Whole calls evolve the table.** Between the halves anything may have been called; if the
message call failed, it is undone. -/
theorem whole_evolves (sound : Sound K w) (calls : Calls K m w w₁ pending) (sound₂ : Sound K w₂)
    (between : Evolves K w₁ w₂) (resumes : Resumes K result w₂ pending w₃)
    (rolledBack : result.success = false → w₂ = w₁) : Evolves K w w₃ := by
  by_cases limited : pending.Limited
  · exact limited_evolves sound calls sound₂ between resumes rolledBack limited
  · exact (calls.evolves sound limited).2.trans (between.trans (resumes.evolves sound₂ limited).2)

/-- **The obligations of the request table.** -/
theorem requests_rely :
    CallStack.AbsoluteRely (dice K) anyCall (Sound K) (Evolves K) where
  refl := .refl
  trans _ _ _ := .trans
  done _ sound _ started _ _ := (start_done started).evolves sound
  calling _ sound _ started _ := ((start_calling started).advances sound).1
  succeed := by
    intro m w w₁ pending result w₂ w₃ _ sound _ started _ _ _ sound₂ _ between success resumed _ _
    have calls := start_calling started
    have resumes := resume_ok calls.proper resumed
    refine ⟨(resumes.keeps sound₂).1, whole_evolves sound calls sound₂ between resumes ?_⟩
    intro failure
    rw [show result.success = true from success] at failure
    cases failure
  fail := by
    intro m w w₁ pending result w₃ _ sound _ started _ sound₁ _ resumed _ _
    have calls := start_calling started
    have resumes := resume_ok calls.proper resumed
    exact ⟨(resumes.keeps sound₁).1,
      whole_evolves sound calls sound₁ (.refl w₁) resumes fun _ => rfl⟩
  idle _ sound _ _ := sound.evolve_same rfl (World.countsUp_of_same rfl) (List.suffix_refl _)

end Halves

end Dice
