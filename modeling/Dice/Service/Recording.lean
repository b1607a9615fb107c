/-
**What the history knows.**

The rows of the `request` table stand for a map from requests to statuses, and every write of the
table is an operation on this map.

* `RequestId`, `Known` — a request as the primary key names it, and what is known of each.
* `Known.record` — a pending status is remembered unless its request is known; a completed one
  replaces what is known; a failed one does if the request was pending.
* `Tracks` — the table and the map agree: `Tracks.step` for one write, `tracks_run` for all.
* `History.serve` — the history with its write queue, which drops what does not fit.
* `history_refines` — in every run the rows are read back as the map of the statuses that were
  written.
-/

import Dice.Library.DropQueue
import Dice.Service.History

set_option linter.unusedSectionVars false

namespace Dice

open Codec (asI64 asU64)

/-! ### The map -/

section Known

variable {Bytes32 : Type}

structure RequestId (Bytes32 : Type) where
  networkId : ℕ
  sequence : ℕ
  provider : Address
  requestTxHash : Bytes32
  deriving DecidableEq

def RequestStatus.id (status : RequestStatus Bytes32) : RequestId Bytes32 :=
  ⟨status.networkId, status.sequence, status.provider, status.requestTxHash⟩

structure RequestId.Typed (id : RequestId Bytes32) : Prop where
  networkId : id.networkId < 2 ^ 64
  sequence : id.sequence < 2 ^ 64

/-- The primary key of a request. -/
def RequestId.rowKey (codecs : Codecs Bytes32) (id : RequestId Bytes32) : RowKey :=
  (asI64 id.networkId, asI64 id.sequence, codecs.address.encode id.provider,
    codecs.txHash.encode id.requestTxHash)

abbrev Known (Bytes32 : Type) := RequestId Bytes32 → Option (RequestStatus Bytes32)

/-- What is known of a request, with another state. -/
def RequestStatus.become (old new : RequestStatus Bytes32) : RequestStatus Bytes32 :=
  { old with
    lastUpdatedAt := new.lastUpdatedAt
    state := new.state }

/-- What is known of a request after a status of it. -/
def RequestStatus.after (status : RequestStatus Bytes32) :
    Option (RequestStatus Bytes32) → Option (RequestStatus Bytes32)
  | none =>
      match status.state with
      | .pending => some status
      | _ => none
  | some old =>
      match status.state, old.state with
      | .completed .., _ => some (old.become status)
      | .failed .., .pending => some (old.become status)
      | _, _ => some old

variable [DecidableEq Bytes32]

/-- One status more. -/
def Known.record (known : Known Bytes32) (status : RequestStatus Bytes32) : Known Bytes32 :=
  Function.update known status.id (status.after (known status.id))

/-- What is known after these statuses. -/
def knownOf (statuses : List (RequestStatus Bytes32)) : Known Bytes32 :=
  statuses.foldl Known.record fun _ => none

end Known

/-! ### Rows and statuses -/

section Tracking

variable {Bytes32 : Type} (codecs : Codecs Bytes32)

/-- The columns of a row that depend on the state. -/
inductive Columns (row : RequestRow) : RequestEntryState Bytes32 → Prop
  | pending : row.state = "Pending".toList → row.revealTxHash = none → row.callbackFailed = none →
      Columns row .pending
  | completed {revealBlockNumber : ℕ} {revealTxHash providerRandomNumber : Bytes32} {gasUsed : ℕ}
      {combinedRandomNumber : Bytes32} {callbackFailed : Bool} {callbackReturnValue : Bytes}
      {callbackGasUsed : ℕ} :
      row.state = "Completed".toList →
      row.revealBlockNumber = some (asI64 revealBlockNumber) →
      row.revealTxHash = some (codecs.txHash.encode revealTxHash) →
      row.providerRandomNumber = some (codecs.word.encode providerRandomNumber) →
      row.gasUsed = some (codecs.u256.encode gasUsed) →
      row.callbackFailed = some (if callbackFailed then 1 else 0) →
      row.callbackReturnValue = some (codecs.bytes.encode callbackReturnValue) →
      row.callbackGasUsed = some (u32.encode callbackGasUsed) →
      Columns row (.completed revealBlockNumber revealTxHash providerRandomNumber gasUsed
        combinedRandomNumber callbackFailed callbackReturnValue callbackGasUsed)
  | failed {reason : Text} {providerRandomNumber : Option Bytes32} :
      row.state = "Failed".toList → row.info = some reason →
      row.providerRandomNumber = providerRandomNumber.map codecs.word.encode →
      row.revealTxHash = none → row.callbackFailed = none →
      Columns row (.failed reason providerRandomNumber)

/-- A row that stands for a status. -/
structure Shows (row : RequestRow) (status : RequestStatus Bytes32) : Prop where
  typed : status.Typed codecs
  holds : row.Holds codecs status
  columns : Columns codecs row status.state

variable {codecs} {row : RequestRow} {status old : RequestStatus Bytes32}

theorem Shows.key (shows : Shows codecs row status) : row.key = status.rowKey codecs := by
  obtain ⟨firstUpdatedAt, made⟩ := shows.holds.made
  rw [made]
  simp only [RequestRow.key, pendingRow, RequestStatus.asPending, RequestStatus.rowKey]

/-- The columns that do not depend on the state. -/
theorem Shows.fields (shows : Shows codecs row status) :
    row.createdAt = timestampMillis status.createdAt ∧ row.networkId = asI64 status.networkId ∧
      row.sequence = asI64 status.sequence ∧
      row.requestTxHash = codecs.txHash.encode status.requestTxHash ∧
      row.sender = codecs.address.encode status.sender := by
  obtain ⟨firstUpdatedAt, made⟩ := shows.holds.made
  rw [made]
  simp only [pendingRow, RequestStatus.asPending, and_self]

/-- **What stands there is read.** -/
theorem Shows.tryFrom {K : Keccak Bytes32} (shows : Shows codecs row status) :
    tryFrom K codecs row = .ok (status.stored K) := by
  refine tryFrom_of_holds shows.typed shows.holds ?_
  have typed := shows.typed.state
  have columns := shows.columns
  generalize status.state = state at typed columns
  cases columns with
  | pending tag _ _ => exact rowState_pending tag _
  | completed tag block txHash number gas failed value callbackGas =>
    rw [rowState_completed tag]
    exact completedState_written typed block txHash number gas failed value callbackGas
  | failed tag info number _ _ =>
    rw [rowState_failed tag]
    exact failedState_written info number

/-- The row that is inserted. -/
theorem shows_pending (typed : status.Typed codecs) (pending : status.state = .pending) :
    Shows codecs (pendingRow codecs status) status := by
  have same : status.asPending status.lastUpdatedAt = status := by
    unfold RequestStatus.asPending
    rw [← pending]
  refine ⟨typed, ⟨⟨status.lastUpdatedAt, ?_⟩, rfl⟩, ?_⟩
  · rw [same]
    exact .refl _
  · rw [pending]
    exact .pending rfl rfl rfl

/-- A row that is updated. -/
theorem Shows.become (shows : Shows codecs row old) (typed : status.Typed codecs)
    {row' : RequestRow} (same : row.SameRequest row')
    (updated : row'.lastUpdatedAt = timestampMillis status.lastUpdatedAt)
    (columns : Columns codecs row' status.state) : Shows codecs row' (old.become status) := by
  obtain ⟨typed₀, ⟨⟨firstUpdatedAt, made⟩, _⟩, _⟩ := shows
  refine ⟨?_, ⟨⟨firstUpdatedAt, made.trans same⟩, updated⟩, columns⟩
  exact ⟨typed₀.networkId, typed₀.sequence, typed₀.requestBlockNumber, typed₀.gasLimit,
    typed₀.createdAt, typed.lastUpdatedAt, typed.state⟩

/-- Only a pending request has the pending tag. -/
theorem Shows.pending_iff (shows : Shows codecs row status) :
    row.state = "Pending".toList ↔ status.state = .pending := by
  have columns := shows.columns
  generalize status.state = state at columns
  cases columns with
  | pending tag _ _ => exact ⟨fun _ => rfl, fun _ => tag⟩
  | completed tag _ _ _ _ _ _ _ =>
    refine ⟨fun here => absurd (tag.symm.trans here) completed_ne_pending, fun impossible => ?_⟩
    cases impossible
  | failed tag _ _ _ _ =>
    refine ⟨fun here => absurd (tag.symm.trans here) failed_ne_pending, fun impossible => ?_⟩
    cases impossible

variable [DecidableEq Bytes32]

/-- **The table and the map agree.** -/
structure Tracks (codecs : Codecs Bytes32) (known : Known Bytes32) (table : RequestTable) : Prop where
  shown : ∀ {id status}, known id = some status → status.id = id ∧
    ∃ row, table.find (status.rowKey codecs) = some row ∧ Shows codecs row status
  made : ∀ {key row}, table.find key = some row → ∃ status, known status.id = some status ∧
    status.rowKey codecs = key

variable {known : Known Bytes32} {table table' : RequestTable}

/-- A request is determined by its key. -/
theorem RequestStatus.id_injective (typed : status.Typed codecs) {id : RequestId Bytes32}
    (bounds : id.Typed) (key : status.rowKey codecs = id.rowKey codecs) : status.id = id := by
  unfold RequestStatus.rowKey RequestId.rowKey at key
  simp only [Prod.mk.injEq] at key
  obtain ⟨network, sequence, provider, txHash⟩ := key
  unfold RequestStatus.id
  rw [Codec.asI64_injective typed.networkId bounds.networkId network,
    Codec.asI64_injective typed.sequence bounds.sequence sequence,
    codecs.address.injective trivial trivial provider,
    codecs.txHash.injective trivial trivial txHash]

theorem RequestStatus.Typed.id (typed : status.Typed codecs) : status.id.Typed :=
  ⟨typed.networkId, typed.sequence⟩

/-- What the table has of a request. -/
theorem Tracks.of_known (tracks : Tracks codecs known table)
    (seen : known status.id = some old) :
    old.rowKey codecs = status.rowKey codecs ∧
      ∃ row, table.find (status.rowKey codecs) = some row ∧ Shows codecs row old := by
  obtain ⟨same, row, found, shows⟩ := tracks.shown seen
  have key : old.rowKey codecs = status.rowKey codecs := by
    show old.id.rowKey codecs = status.id.rowKey codecs
    rw [same]
  rw [key] at found
  exact ⟨key, row, found, shows⟩

theorem Tracks.of_unknown (tracks : Tracks codecs known table) (typed : status.Typed codecs)
    (unknown : known status.id = none) : table.find (status.rowKey codecs) = none := by
  cases found : table.find (status.rowKey codecs) with
  | none => rfl
  | some row =>
    obtain ⟨other, seen, key⟩ := tracks.made found
    obtain ⟨_, _, _, shows⟩ := tracks.shown seen
    rw [RequestStatus.id_injective shows.typed typed.id key, unknown] at seen
    cases seen

/-- One request changes, in the table and in the map. -/
theorem Tracks.write (tracks : Tracks codecs known table) {new : RequestStatus Bytes32}
    (typed : status.Typed codecs) (id : new.id = status.id) (key : new.rowKey codecs = status.rowKey codecs)
    (others : ∀ key, key ≠ status.rowKey codecs → table'.find key = table.find key)
    (found : table'.find (status.rowKey codecs) = some row) (shows : Shows codecs row new) :
    Tracks codecs (Function.update known status.id (some new)) table' where
  shown := by
    intro id' status' seen
    by_cases here : id' = status.id
    · subst here
      rw [Function.update_self] at seen
      cases seen
      exact ⟨id, row, by rw [key]; exact found, shows⟩
    · rw [Function.update_of_ne here] at seen
      obtain ⟨same, row', found', shows'⟩ := tracks.shown seen
      refine ⟨same, row', ?_, shows'⟩
      rw [others _ fun sameKey => here ?_]
      · exact found'
      · rw [← same]
        exact RequestStatus.id_injective shows'.typed typed.id sameKey
  made := by
    intro key' row' found'
    by_cases here : key' = status.rowKey codecs
    · refine ⟨new, ?_, key.trans here.symm⟩
      rw [id, Function.update_self]
    · rw [others _ here] at found'
      obtain ⟨status', seen, key''⟩ := tracks.made found'
      refine ⟨status', ?_, key''⟩
      rw [Function.update_of_ne]
      · exact seen
      · intro same
        refine here ?_
        rw [← key'']
        show status'.id.rowKey codecs = status.id.rowKey codecs
        rw [same]

/-- Nothing changes. -/
theorem Tracks.unchanged (tracks : Tracks codecs known table) {seen : Option (RequestStatus Bytes32)}
    (same : known status.id = seen) (rows : ∀ key, table'.find key = table.find key) :
    Tracks codecs (Function.update known status.id seen) table' := by
  rw [← same, Function.update_eq_self]
  refine ⟨fun found => ?_, fun found => tracks.made ((rows _).symm.trans found)⟩
  obtain ⟨id, row, stored, shows⟩ := tracks.shown found
  exact ⟨id, row, (rows _).trans stored, shows⟩

/-- An update that finds no row. -/
theorem find_update_of_unmet {condition : RequestRow → Bool} {set : RequestRow → RequestRow}
    (keeps : ∀ row, (set row).key = row.key) (here : RowKey)
    (unmet : ∀ row, table.find here = some row → condition row = false)
    (only_here : ∀ row, condition row = true → row.key = here) (key : RowKey) :
    (table.update condition set keeps).find key = table.find key := by
  by_cases same : key = here
  · subst same
    rw [KeyedTable.find_update]
    cases found : table.find key with
    | none => rfl
    | some row =>
      rw [Option.map_some, unmet row found]
      rfl
  · exact KeyedTable.find_update_of_ne keeps only_here same

/-- A status of a request that is not known. -/
theorem Tracks.step_unknown (tracks : Tracks codecs known table) (typed : status.Typed codecs)
    (unknown : known status.id = none) :
    Tracks codecs (known.record status) (updateRequestStatus codecs table status) := by
  have writes : Writes codecs table status (updateRequestStatus codecs table status) :=
    updateRequestStatus_writes table status
  have absent := tracks.of_unknown typed unknown
  have rows (settled : status.state ≠ .pending) (key : RowKey) :
      (updateRequestStatus codecs table status).find key = table.find key := by
    by_cases here : key = status.rowKey codecs
    · rw [here, writes.absent absent settled, absent]
    · exact writes.others key here
  unfold Known.record
  rw [unknown]
  cases state : status.state with
  | pending =>
    rw [show status.after none = some status by rw [RequestStatus.after, state]]
    exact tracks.write typed rfl rfl writes.others (writes.created absent state)
      (shows_pending typed state)
  | completed =>
    rw [show status.after none = none by rw [RequestStatus.after, state]]
    exact tracks.unchanged unknown (rows (by rw [state]; exact nofun))
  | failed =>
    rw [show status.after none = none by rw [RequestStatus.after, state]]
    exact tracks.unchanged unknown (rows (by rw [state]; exact nofun))

/-- A status of one that is. -/
theorem Tracks.step_known (tracks : Tracks codecs known table) (typed : status.Typed codecs)
    (seen : known status.id = some old) :
    Tracks codecs (known.record status) (updateRequestStatus codecs table status) := by
  have writes : Writes codecs table status (updateRequestStatus codecs table status) :=
    updateRequestStatus_writes table status
  have others := writes.others
  obtain ⟨key, row, found, shows⟩ := tracks.of_known seen
  have id : old.id = status.id := (tracks.shown seen).1
  have here : row.key = status.rowKey codecs := KeyedTable.key_of_find found
  unfold Known.record
  rw [seen]
  cases state : status.state with
  | pending =>
    rw [show status.after (some old) = some old by rw [RequestStatus.after, state]]
    refine tracks.unchanged seen fun key => ?_
    have present : table.insert (pendingRow codecs status) = none := by
      rw [KeyedTable.insert_eq_none, pendingRow_key, found]
      exact nofun
    unfold updateRequestStatus
    rw [state, present]
    rfl
  | completed =>
    rw [show status.after (some old) = some (old.become status) by rw [RequestStatus.after, state]]
    unfold updateRequestStatus at others ⊢
    rw [state] at others ⊢
    refine tracks.write typed id key others
      (KeyedTable.find_update_of_met _ found (decide_eq_true here)) (shows.become typed rfl rfl ?_)
    rw [state]
    exact .completed rfl rfl rfl rfl rfl rfl rfl rfl
  | failed =>
    by_cases pending : old.state = .pending
    · rw [show status.after (some old) = some (old.become status) by
        rw [RequestStatus.after, state, pending]]
      obtain ⟨columns_tag, columns_reveal, columns_failed⟩ : row.state = "Pending".toList ∧
          row.revealTxHash = none ∧ row.callbackFailed = none := by
        have columns := shows.columns
        rw [pending] at columns
        cases columns with
        | pending tag reveal failed => exact ⟨tag, reveal, failed⟩
      unfold updateRequestStatus at others ⊢
      rw [state] at others ⊢
      have met : (row.key = status.rowKey codecs && row.state = "Pending".toList) = true :=
        Bool.and_eq_true_iff.mpr ⟨decide_eq_true here, decide_eq_true columns_tag⟩
      refine tracks.write typed id key others (KeyedTable.find_update_of_met _ found met)
        (shows.become typed rfl rfl ?_)
      rw [state]
      exact .failed rfl rfl rfl columns_reveal columns_failed
    · have after : status.after (some old) = some old := by
        rw [RequestStatus.after, state]
        cases state' : old.state with
        | pending => exact absurd state' pending
        | completed => rfl
        | failed => rfl
      rw [after]
      refine tracks.unchanged seen fun key => ?_
      unfold updateRequestStatus
      rw [state]
      refine find_update_of_unmet _ (status.rowKey codecs) (fun row' found' => ?_)
        (fun row' met => of_decide_eq_true (Bool.and_eq_true_iff.mp met).1) key
      obtain rfl := Option.some.inj (found.symm.trans found')
      rw [Bool.and_eq_false_iff]
      exact .inr (decide_eq_false fun tag => pending (shows.pending_iff.mp tag))

/-- **One write.** -/
theorem Tracks.step (tracks : Tracks codecs known table) (typed : status.Typed codecs) :
    Tracks codecs (known.record status) (updateRequestStatus codecs table status) := by
  cases seen : known status.id with
  | none => exact tracks.step_unknown typed seen
  | some old => exact tracks.step_known typed seen

/-- **All writes.** -/
theorem tracks_run {statuses : List (RequestStatus Bytes32)}
    (typed : ∀ status ∈ statuses, status.Typed codecs) :
    Tracks codecs (knownOf statuses) (History.run codecs statuses) := by
  induction statuses using List.reverseRecOn with
  | nil =>
    refine ⟨fun seen => ?_, fun found => ?_⟩
    · cases seen
    · cases found
  | append_singleton statuses status ih =>
    unfold knownOf History.run at ih ⊢
    rw [List.foldl_append, List.foldl_append]
    exact (ih fun other member => typed other (List.mem_append_left _ member)).step
      (typed status (List.mem_append_right _ (List.mem_singleton_self status)))

/-- `MAX_WRITE_QUEUE`. -/
def maxWriteQueue : ℕ := 1000

/-- **`History`**: statuses are added to a queue, and its writer takes them one by one. A write that
fails is only logged. -/
def History.serve (codecs : Codecs Bytes32) (steps : List (DropQueue.Step (RequestStatus Bytes32))) :
    DropQueue RequestTable (RequestStatus Bytes32) :=
  (DropQueue.start .empty).run maxWriteQueue (updateRequestStatus codecs) steps

/-- The table and what was written agree in every run. -/
theorem tracks_serve {steps : List (DropQueue.Step (RequestStatus Bytes32))}
    (typed : ∀ status ∈ DropQueue.offered steps, status.Typed codecs) :
    Tracks codecs (knownOf (History.serve codecs steps).written) (History.serve codecs steps).world ∧
      DropQueue.Faithful maxWriteQueue (updateRequestStatus codecs) (KeyedTable.empty : RequestTable)
        (DropQueue.offered steps) (History.serve codecs steps) := by
  have faithful : DropQueue.Faithful maxWriteQueue (updateRequestStatus codecs)
      (KeyedTable.empty : RequestTable) (DropQueue.offered steps) (History.serve codecs steps) :=
    DropQueue.run_spec _ steps
  refine ⟨?_, faithful⟩
  rw [faithful.world]
  exact tracks_run fun status member => typed status
    (faithful.order.subset (List.mem_append_left _ (List.mem_append_left _ member)))

/-- A row of the table shows a request that is known. -/
theorem Tracks.of_row (tracks : Tracks codecs known table) {row : RequestRow}
    (member : row ∈ table.rows) : ∃ status, known status.id = some status ∧
      Shows codecs row status := by
  have found := KeyedTable.find_eq_some.mpr ⟨member, rfl⟩
  obtain ⟨status, seen, key⟩ := tracks.made found
  obtain ⟨_, row', found', shows⟩ := tracks.shown seen
  rw [key, found] at found'
  cases found'
  exact ⟨status, seen, shows⟩

/-- **What is stored is known.** In every run of the history the rows are read back, without an error,
as the map of the statuses that were written: each request that is known has its row, with times in
whole milliseconds and the combined number of its contributions, and there is no other row. What was
written and what still waits are a part of what was added, in order; the rest is what did not fit or
could not be written. -/
theorem history_refines (K : Keccak Bytes32)
    (steps : List (DropQueue.Step (RequestStatus Bytes32)))
    (typed : ∀ status ∈ DropQueue.offered steps, status.Typed codecs) :
    let history := History.serve codecs steps
    (∀ id : RequestId Bytes32, id.Typed →
      (history.world.find (id.rowKey codecs)).map (tryFrom K codecs) =
        (knownOf history.written id).map fun status => .ok (status.stored K)) ∧
      (∀ row ∈ history.world.rows, ∃ status, knownOf history.written status.id = some status ∧
        tryFrom K codecs row = .ok (status.stored K)) ∧
      history.kept.Sublist (DropQueue.offered steps) ∧
      history.kept.length + history.lost = (DropQueue.offered steps).length ∧
      history.waiting.length ≤ maxWriteQueue := by
  intro history
  obtain ⟨tracks, faithful⟩ := tracks_serve typed
  refine ⟨fun id bounds => ?_, fun row member => ?_, faithful.order, faithful.count,
    faithful.bounded⟩
  · cases seen : knownOf history.written id with
    | some status =>
      obtain ⟨rfl, row, found, shows⟩ := tracks.shown seen
      rw [show history.world.find (status.id.rowKey codecs) = some row from found,
        Option.map_some, shows.tryFrom]
      rfl
    | none =>
      cases found : history.world.find (id.rowKey codecs) with
      | none => rfl
      | some row =>
        obtain ⟨status, stored, key⟩ := tracks.made found
        obtain ⟨_, _, _, shows⟩ := tracks.shown stored
        rw [RequestStatus.id_injective shows.typed bounds key, seen] at stored
        cases stored
  · obtain ⟨status, seen, shows⟩ := tracks.of_row member
    exact ⟨status, seen, shows.tryFrom⟩

end Tracking

theorem Sample.pendingStatus_typed : (Sample.revealedStatus.asPending 0).Typed Sample.codecs where
  networkId := Sample.revealedStatus_typed.networkId
  sequence := Sample.revealedStatus_typed.sequence
  requestBlockNumber := Sample.revealedStatus_typed.requestBlockNumber
  gasLimit := Sample.revealedStatus_typed.gasLimit
  createdAt := Sample.revealedStatus_typed.createdAt
  lastUpdatedAt := by decide
  state := trivial

/-- The request of the samples, added and completed; the writer has written it as pending only. -/
def Sample.historySteps : List (DropQueue.Step (RequestStatus Bytes)) :=
  [.offer (Sample.revealedStatus.asPending 0), .take, .offer Sample.revealedStatus, .finish true,
    .take]

theorem Sample.historySteps_typed :
    ∀ status ∈ DropQueue.offered Sample.historySteps, status.Typed Sample.codecs := by
  intro status member
  rcases List.mem_cons.mp member with rfl | member
  · exact Sample.pendingStatus_typed
  · obtain rfl := List.mem_singleton.mp member
    exact Sample.revealedStatus_typed

theorem history_refines_pending :
    let history := History.serve Sample.codecs Sample.historySteps
    ∀ row ∈ history.world.rows, ∃ status, knownOf history.written status.id = some status ∧
      tryFrom Sample.combinedKeccak Sample.codecs row =
        .ok (status.stored Sample.combinedKeccak) :=
  (history_refines Sample.combinedKeccak _ Sample.historySteps_typed).2.1

end Dice
