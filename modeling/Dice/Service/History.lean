/-
**The history of requests.**

A status of a request is written to a row of the `request` table, and read back for the explorer.

* `Codecs` — how hashes, addresses, bytes and numbers are written as text, and which times `chrono` has.
* `updateRequestStatus` — one write: an insert that relies on the primary key, an update by key, or an
  update of a pending row. `tryFrom` — reading a row.
* `rows_move_forward` — over any run of writes a row is made by a pending status, keeps what was
  written then, and its state only moves forward.
* `tryFrom_written` — what was written of a request that is new is read back.
-/

import Dice.Library.Codec
import Dice.Library.Hex
import Dice.Library.KeyedTable
import Dice.Service.Events
import Mathlib.Data.List.Induction
import Mathlib.Logic.Relation

set_option linter.unusedSectionVars false

namespace Dice

open Codec (asI64 asU64)

/-! ### Rows -/

/-- **The text of values**, and the first and the last millisecond that `chrono` has. -/
structure Codecs (Bytes32 : Type) where
  txHash : Codec Bytes32 Text fun _ => True
  word : Codec Bytes32 Text fun _ => True
  address : Codec Address Text fun _ => True
  bytes : Codec Bytes Text fun _ => True
  u256 : Codec ℕ Text (· < 2 ^ 256)
  minMillis : ℤ
  maxMillis : ℤ

/-- `u32`, in decimal. -/
def u32 : Codec ℕ Text (· < 2 ^ 32) := .unsigned (2 ^ 32)

/-- The primary key: `network_id`, `sequence`, `provider` and `request_tx_hash`. -/
abbrev RowKey := ℤ × ℤ × Text × Text

/-- `RequestRow`: the columns of the table. -/
structure RequestRow where
  chainId : Text
  networkId : ℤ
  provider : Text
  sequence : ℤ
  createdAt : ℤ
  lastUpdatedAt : ℤ
  state : Text
  requestBlockNumber : ℤ
  requestTxHash : Text
  userRandomNumber : Text
  sender : Text
  gasLimit : Text
  revealBlockNumber : Option ℤ
  revealTxHash : Option Text
  providerRandomNumber : Option Text
  gasUsed : Option Text
  info : Option Text
  callbackFailed : Option ℤ
  callbackReturnValue : Option Text
  callbackGasUsed : Option Text
  deriving DecidableEq

def RequestRow.key (row : RequestRow) : RowKey :=
  (row.networkId, row.sequence, row.provider, row.requestTxHash)

/-- The `request` table. -/
abbrev RequestTable := KeyedTable RequestRow.key

/-- `timestamp_millis`: whole milliseconds, rounded down. -/
def timestampMillis (nanoseconds : ℤ) : ℤ := nanoseconds / 1000000

section Writing

variable {Bytes32 : Type} (codecs : Codecs Bytes32)

/-- The ranges of the data types. -/
def RequestEntryState.Typed : RequestEntryState Bytes32 → Prop
  | .pending => True
  | .completed revealBlockNumber _ _ gasUsed _ _ _ callbackGasUsed =>
      revealBlockNumber < 2 ^ 64 ∧ gasUsed < 2 ^ 256 ∧ callbackGasUsed < 2 ^ 32
  | .failed _ _ => True

structure RequestStatus.Typed (status : RequestStatus Bytes32) : Prop where
  networkId : status.networkId < 2 ^ 64
  sequence : status.sequence < 2 ^ 64
  requestBlockNumber : status.requestBlockNumber < 2 ^ 64
  gasLimit : status.gasLimit < 2 ^ 32
  createdAt : codecs.minMillis ≤ timestampMillis status.createdAt ∧
    timestampMillis status.createdAt ≤ codecs.maxMillis
  lastUpdatedAt : codecs.minMillis ≤ timestampMillis status.lastUpdatedAt ∧
    timestampMillis status.lastUpdatedAt ≤ codecs.maxMillis
  state : status.state.Typed

def RequestStatus.rowKey (status : RequestStatus Bytes32) : RowKey :=
  (asI64 status.networkId, asI64 status.sequence, codecs.address.encode status.provider,
    codecs.txHash.encode status.requestTxHash)

/-- The row that is inserted for a pending status. -/
def pendingRow (status : RequestStatus Bytes32) : RequestRow where
  chainId := status.chainId
  networkId := asI64 status.networkId
  provider := codecs.address.encode status.provider
  sequence := asI64 status.sequence
  createdAt := timestampMillis status.createdAt
  lastUpdatedAt := timestampMillis status.lastUpdatedAt
  state := "Pending".toList
  requestBlockNumber := asI64 status.requestBlockNumber
  requestTxHash := codecs.txHash.encode status.requestTxHash
  userRandomNumber := codecs.word.encode status.userRandomNumber
  sender := codecs.address.encode status.sender
  gasLimit := u32.encode status.gasLimit
  revealBlockNumber := none
  revealTxHash := none
  providerRandomNumber := none
  gasUsed := none
  info := none
  callbackFailed := none
  callbackReturnValue := none
  callbackGasUsed := none

theorem pendingRow_key (status : RequestStatus Bytes32) :
    (pendingRow codecs status).key = status.rowKey codecs := by
  unfold RequestRow.key RequestStatus.rowKey
  simp only [pendingRow]

theorem pendingRow_state (status : RequestStatus Bytes32) :
    (pendingRow codecs status).state = "Pending".toList := rfl

/-- `History::update_request_status`. A key that exists is only logged, and so is an update that finds
no row. -/
def updateRequestStatus (table : RequestTable) (newStatus : RequestStatus Bytes32) : RequestTable :=
  match newStatus.state with
  | .pending => (table.insert (pendingRow codecs newStatus)).getD table
  | .completed revealBlockNumber revealTxHash providerRandomNumber gasUsed _ callbackFailed
      callbackReturnValue callbackGasUsed =>
      table.update (fun row => row.key = newStatus.rowKey codecs)
        (fun row =>
          { row with
            state := "Completed".toList
            lastUpdatedAt := timestampMillis newStatus.lastUpdatedAt
            revealBlockNumber := some (asI64 revealBlockNumber)
            revealTxHash := some (codecs.txHash.encode revealTxHash)
            providerRandomNumber := some (codecs.word.encode providerRandomNumber)
            gasUsed := some (codecs.u256.encode gasUsed)
            callbackFailed := some (if callbackFailed then 1 else 0)
            callbackReturnValue := some (codecs.bytes.encode callbackReturnValue)
            callbackGasUsed := some (u32.encode callbackGasUsed) })
        fun _ => rfl
  | .failed reason providerRandomNumber =>
      table.update (fun row => row.key = newStatus.rowKey codecs && row.state = "Pending".toList)
        (fun row =>
          { row with
            state := "Failed".toList
            lastUpdatedAt := timestampMillis newStatus.lastUpdatedAt
            info := some reason
            providerRandomNumber := providerRandomNumber.map codecs.word.encode })
        fun _ => rfl

/-- The writer: every status that is added, in order. -/
def History.run (statuses : List (RequestStatus Bytes32)) : RequestTable :=
  statuses.foldl (updateRequestStatus codecs) .empty

end Writing

/-! ### Rows only move forward -/

/-- **The ways in which the state of a row changes.** -/
inductive Forward (before after : Text) : Prop
  | failed : before = "Pending".toList → after = "Failed".toList → Forward before after
  | completed : before = "Pending".toList → after = "Completed".toList → Forward before after
  | recovered : before = "Failed".toList → after = "Completed".toList → Forward before after
  | repeated : before = "Completed".toList → after = "Completed".toList → Forward before after

/-- The states that are written. -/
def RequestRow.Proper (row : RequestRow) : Prop :=
  row.state = "Pending".toList ∨ row.state = "Failed".toList ∨ row.state = "Completed".toList

/-- Two rows of one request: what is written at its creation is the same. -/
def RequestRow.SameRequest (row row' : RequestRow) : Prop :=
  row' = { row with
    lastUpdatedAt := row'.lastUpdatedAt
    state := row'.state
    revealBlockNumber := row'.revealBlockNumber
    revealTxHash := row'.revealTxHash
    providerRandomNumber := row'.providerRandomNumber
    gasUsed := row'.gasUsed
    info := row'.info
    callbackFailed := row'.callbackFailed
    callbackReturnValue := row'.callbackReturnValue
    callbackGasUsed := row'.callbackGasUsed }

theorem RequestRow.SameRequest.refl (row : RequestRow) : row.SameRequest row := rfl

theorem RequestRow.SameRequest.trans {a b c : RequestRow} (first : a.SameRequest b)
    (second : b.SameRequest c) : a.SameRequest c := by
  unfold RequestRow.SameRequest at first second ⊢
  rw [second, first]

section Forwards

variable {Bytes32 : Type} (codecs : Codecs Bytes32)

/-- **What one write does** to the rows of a table. -/
structure Writes (table : RequestTable) (status : RequestStatus Bytes32) (table' : RequestTable) :
    Prop where
  others : ∀ key, key ≠ status.rowKey codecs → table'.find key = table.find key
  created : table.find (status.rowKey codecs) = none → status.state = .pending →
    table'.find (status.rowKey codecs) = some (pendingRow codecs status)
  absent : table.find (status.rowKey codecs) = none → status.state ≠ .pending →
    table'.find (status.rowKey codecs) = none
  changed : ∀ row, table.find (status.rowKey codecs) = some row → row.Proper →
    ∃ row', table'.find (status.rowKey codecs) = some row' ∧ row.SameRequest row' ∧
      (row' = row ∨ Forward row.state row'.state)

variable {codecs}

/-- A pending status is inserted. -/
theorem writes_pending {table : RequestTable} {status : RequestStatus Bytes32}
    (pending : status.state = .pending) :
    Writes codecs table status ((table.insert (pendingRow codecs status)).getD table) := by
  cases inserted : table.insert (pendingRow codecs status) with
  | none =>
    have present := KeyedTable.insert_eq_none.mp inserted
    rw [pendingRow_key] at present
    exact ⟨fun _ _ => rfl, fun absent => absurd absent present, fun absent => absurd absent present,
      fun row found _ => ⟨row, found, .refl row, .inl rfl⟩⟩
  | some table' =>
    have fresh : table.find (status.rowKey codecs) = none := by
      by_contra present
      rw [← pendingRow_key] at present
      rw [KeyedTable.insert_eq_none.mpr present] at inserted
      cases inserted
    refine ⟨fun key other => ?_, fun _ _ => ?_, fun _ settled => absurd pending settled,
      fun row found => ?_⟩
    · show table'.find key = _
      rw [KeyedTable.find_insert inserted, pendingRow_key]
      exact if_neg (Ne.symm other)
    · show table'.find _ = _
      rw [KeyedTable.find_insert inserted, pendingRow_key]
      exact if_pos rfl
    · rw [fresh] at found
      cases found

/-- Other statuses update the row of their key, if a condition on its state is met. -/
theorem writes_update {table : RequestTable} {status : RequestStatus Bytes32}
    {condition : RequestRow → Bool} {set : RequestRow → RequestRow}
    (keeps : ∀ row, (set row).key = row.key) (settled : status.state ≠ .pending)
    (only_here : ∀ row, condition row = true → row.key = status.rowKey codecs)
    (same : ∀ row : RequestRow, row.SameRequest (set row))
    (forward : ∀ row : RequestRow, row.Proper → condition row = true →
      Forward row.state (set row).state) :
    Writes codecs table status (table.update condition set keeps) where
  others key other := KeyedTable.find_update_of_ne keeps only_here other
  created _ pending := absurd pending settled
  absent fresh _ := by
    rw [KeyedTable.find_update, fresh]
    rfl
  changed row found proper := by
    rw [KeyedTable.find_update, found]
    refine ⟨if condition row then set row else row, rfl, ?_⟩
    split
    · next met => exact ⟨same row, .inr (forward row proper met)⟩
    · exact ⟨.refl row, .inl rfl⟩

/-- **One write.** -/
theorem updateRequestStatus_writes (table : RequestTable) (status : RequestStatus Bytes32) :
    Writes codecs table status (updateRequestStatus codecs table status) := by
  unfold updateRequestStatus
  split
  · next pending => exact writes_pending pending
  · next state =>
    refine writes_update _ (fun pending => ?_) (fun row met => of_decide_eq_true met)
      (fun _ => rfl) fun row proper _ => ?_
    · rw [state] at pending
      cases pending
    · rcases proper with pending | failed | completed
      · exact .completed pending rfl
      · exact .recovered failed rfl
      · exact .repeated completed rfl
  · next state =>
    refine writes_update _ (fun pending => ?_) (fun row met => ?_) (fun _ => rfl)
      fun row _ met => ?_
    · rw [state] at pending
      cases pending
    · exact of_decide_eq_true (Bool.and_eq_true_iff.mp met).1
    · exact .failed (of_decide_eq_true (Bool.and_eq_true_iff.mp met).2) rfl

/-- Different requests have different keys. -/
theorem rowKey_injective {first second : RequestStatus Bytes32} (typed : first.Typed codecs)
    (typed' : second.Typed codecs) (same : first.rowKey codecs = second.rowKey codecs) :
    first.networkId = second.networkId ∧ first.sequence = second.sequence ∧
      first.provider = second.provider ∧ first.requestTxHash = second.requestTxHash := by
  unfold RequestStatus.rowKey at same
  simp only [Prod.mk.injEq] at same
  obtain ⟨network, sequence, provider, txHash⟩ := same
  exact ⟨Codec.asI64_injective typed.networkId typed'.networkId network,
    Codec.asI64_injective typed.sequence typed'.sequence sequence,
    codecs.address.injective trivial trivial provider,
    codecs.txHash.injective trivial trivial txHash⟩

/-- **The invariant**: every row was made by a pending status of its request. -/
def Recorded (codecs : Codecs Bytes32) (statuses : List (RequestStatus Bytes32))
    (table : RequestTable) : Prop :=
  ∀ key row, table.find key = some row → row.Proper ∧ ∃ first ∈ statuses,
    first.state = .pending ∧ first.rowKey codecs = key ∧ (pendingRow codecs first).SameRequest row

theorem Forward.proper {before : Text} {row : RequestRow} (forward : Forward before row.state) :
    row.Proper := by
  cases forward with
  | failed _ now => exact .inr (.inl now)
  | completed _ now => exact .inr (.inr now)
  | recovered _ now => exact .inr (.inr now)
  | repeated _ now => exact .inr (.inr now)

/-- A row stays. -/
theorem Writes.stays {table table' : RequestTable} {status : RequestStatus Bytes32}
    (writes : Writes codecs table status table') {key : RowKey} {row : RequestRow}
    (found : table.find key = some row) (proper : row.Proper) :
    ∃ row', table'.find key = some row' ∧ row.SameRequest row' ∧
      (row' = row ∨ Forward row.state row'.state) := by
  by_cases here : key = status.rowKey codecs
  · subst here
    exact writes.changed row found proper
  · exact ⟨row, (writes.others key here).trans found, .refl row, .inl rfl⟩

/-- A row that is new was made by a pending status. -/
theorem Writes.made {table table' : RequestTable} {status : RequestStatus Bytes32}
    (writes : Writes codecs table status table') {key : RowKey} {row' : RequestRow}
    (absent : table.find key = none) (found : table'.find key = some row') :
    status.state = .pending ∧ status.rowKey codecs = key ∧ row' = pendingRow codecs status := by
  by_cases here : key = status.rowKey codecs
  · subst here
    by_cases pending : status.state = .pending
    · rw [writes.created absent pending] at found
      exact ⟨pending, rfl, (Option.some.inj found).symm⟩
    · rw [writes.absent absent pending] at found
      cases found
  · rw [writes.others key here, absent] at found
    cases found

theorem Recorded.step {statuses : List (RequestStatus Bytes32)} {table table' : RequestTable}
    {status : RequestStatus Bytes32} (recorded : Recorded codecs statuses table)
    (writes : Writes codecs table status table') :
    Recorded codecs (statuses ++ [status]) table' := by
  intro key row' found'
  cases found : table.find key with
  | none =>
    obtain ⟨pending, here, rfl⟩ := writes.made found found'
    exact ⟨.inl rfl, status, List.mem_append_right _ (List.mem_singleton_self _), pending, here,
      .refl _⟩
  | some row =>
    obtain ⟨proper, first, member, pending, here, made⟩ := recorded key row found
    obtain ⟨after, found'', same, change⟩ := writes.stays found proper
    obtain rfl := Option.some.inj (found''.symm.trans found')
    refine ⟨?_, first, List.mem_append_left _ member, pending, here, made.trans same⟩
    rcases change with rfl | forward
    · exact proper
    · exact forward.proper

/-- A run. -/
theorem recorded_run (statuses : List (RequestStatus Bytes32)) :
    Recorded codecs statuses (History.run codecs statuses) := by
  induction statuses using List.reverseRecOn with
  | nil => exact fun _ _ found => by cases found
  | append_singleton statuses status ih =>
    unfold History.run
    rw [List.foldl_append]
    exact ih.step (updateRequestStatus_writes _ status)

/-- A row that is there stays, and moves forward. -/
theorem Recorded.onward {statuses : List (RequestStatus Bytes32)} {table : RequestTable}
    (recorded : Recorded codecs statuses table) (later : List (RequestStatus Bytes32)) {key : RowKey}
    {row : RequestRow} (found : table.find key = some row) :
    ∃ row', (later.foldl (updateRequestStatus codecs) table).find key = some row' ∧
      row.SameRequest row' ∧ Relation.ReflTransGen Forward row.state row'.state := by
  induction later generalizing statuses table row with
  | nil => exact ⟨row, found, .refl row, .refl⟩
  | cons status later ih =>
    have writes : Writes codecs table status _ := updateRequestStatus_writes table status
    have next := recorded.step writes
    obtain ⟨row₁, found₁, same₁, change⟩ := writes.stays found (recorded _ row found).1
    obtain ⟨row', found', same, onward⟩ := ih next found₁
    refine ⟨row', found', same₁.trans same, ?_⟩
    rcases change with rfl | forward
    · exact onward
    · exact .head forward onward

/-- **Rows only move forward**, in every run: a write leaves the rows of other keys alone; only a pending
status makes a row; a row keeps what was written at its creation, and its state, if it changes, moves
forward, now and in whatever is written later. -/
theorem rows_move_forward (statuses later : List (RequestStatus Bytes32))
    (status : RequestStatus Bytes32) :
    let table := History.run codecs statuses
    let table' := updateRequestStatus codecs table status
    (∀ key, key ≠ status.rowKey codecs → table'.find key = table.find key) ∧
    (∀ key row', table.find key = none → table'.find key = some row' →
      status.state = .pending ∧ row' = pendingRow codecs status) ∧
    (∀ key row, table.find key = some row → ∃ row', table'.find key = some row' ∧
      row.SameRequest row' ∧ (row' = row ∨ Forward row.state row'.state)) ∧
    (∀ key row, table.find key = some row → ∃ row',
      (History.run codecs (statuses ++ later)).find key = some row' ∧ row.SameRequest row' ∧
        Relation.ReflTransGen Forward row.state row'.state) ∧
    (∀ first second : RequestStatus Bytes32, first.Typed codecs → second.Typed codecs →
      first.rowKey codecs = second.rowKey codecs →
      first.networkId = second.networkId ∧ first.sequence = second.sequence ∧
        first.provider = second.provider ∧ first.requestTxHash = second.requestTxHash) := by
  intro table table'
  have recorded : Recorded codecs statuses table := recorded_run statuses
  have writes : Writes codecs table status table' := updateRequestStatus_writes table status
  refine ⟨writes.others, fun key row' absent found => ?_, fun key row found => ?_,
    fun key row found => ?_, fun _ _ typed typed' same => rowKey_injective typed typed' same⟩
  · obtain ⟨pending, _, made⟩ := writes.made absent found
    exact ⟨pending, made⟩
  · exact writes.stays found (recorded _ row found).1
  · unfold History.run
    rw [List.foldl_append]
    exact recorded.onward later found

end Forwards

/-! ### Reading rows -/

/-- Why a row cannot be read: a text of this crate, or an error of the parser of a column. -/
inductive RowError where
  | message (text : Text)
  | parse
  deriving DecidableEq, Repr

section Reading

variable {Bytes32 : Type} (K : Keccak Bytes32) (codecs : Codecs Bytes32)

/-- `DateTime::from_timestamp_millis`, in nanoseconds. -/
def fromTimestampMillis (millis : ℤ) : Option ℤ :=
  if codecs.minMillis ≤ millis ∧ millis ≤ codecs.maxMillis then some (millis * 1000000) else none

/-- `ok_or` and `map_err`, with a message. -/
def orMessage {α : Type} (value : Option α) (text : String) : Except RowError α :=
  match value with
  | some value => .ok value
  | none => .error (.message text.toList)

/-- `?` on the result of a parser. -/
def parsed {α : Type} (value : Option α) : Except RowError α :=
  match value with
  | some value => .ok value
  | none => .error .parse

/-- The columns of a completed request. -/
def completedState (row : RequestRow) (userRandomNumber : Bytes32) :
    Except RowError (RequestEntryState Bytes32) := do
  let revealBlockNumber ←
    orMessage row.revealBlockNumber "Reveal block number is missing for completed request"
  let revealTxHash ←
    orMessage row.revealTxHash "Reveal transaction hash is missing for completed request"
  let revealTxHash ← parsed (codecs.txHash.decode revealTxHash)
  let providerRandomNumber ←
    orMessage row.providerRandomNumber "Provider random number is missing for completed request"
  let providerRandomNumber ← parsed (codecs.word.decode providerRandomNumber)
  let gasUsed ← orMessage row.gasUsed "Gas used is missing for completed request"
  let gasUsed ← orMessage (codecs.u256.decode gasUsed) "Failed to parse gas used"
  let callbackGasUsed ← orMessage (u32.decode (row.callbackGasUsed.getD []))
    "Failed to parse callback_gas_used"
  pure (.completed (asU64 revealBlockNumber) revealTxHash providerRandomNumber gasUsed
    (generateCombinedRandomNumber K userRandomNumber providerRandomNumber)
    (row.callbackFailed.getD 0 == 1)
    ((row.callbackReturnValue.map fun s => (codecs.bytes.decode s).getD []).getD [])
    callbackGasUsed)

/-- The columns of a failed request. -/
def failedState (row : RequestRow) : Except RowError (RequestEntryState Bytes32) :=
  match row.providerRandomNumber with
  | some providerRandomNumber => do
      let providerRandomNumber ← parsed (codecs.word.decode providerRandomNumber)
      pure (.failed (row.info.getD []) (some providerRandomNumber))
  | none => .ok (.failed (row.info.getD []) none)

/-- The columns of a state. -/
def rowState (row : RequestRow) (userRandomNumber : Bytes32) :
    Except RowError (RequestEntryState Bytes32) :=
  if row.state = "Pending".toList then .ok .pending
  else if row.state = "Completed".toList then completedState K codecs row userRandomNumber
  else if row.state = "Failed".toList then failedState codecs row
  else .error (.message ("Unknown request state: ".toList ++ row.state))

/-- `RequestStatus::try_from`. -/
def tryFrom (row : RequestRow) : Except RowError (RequestStatus Bytes32) := do
  let provider ← parsed (codecs.address.decode row.provider)
  let createdAt ← orMessage (fromTimestampMillis codecs row.createdAt) "Invalid created_at timestamp"
  let lastUpdatedAt ←
    orMessage (fromTimestampMillis codecs row.lastUpdatedAt) "Invalid last_updated_at timestamp"
  let userRandomNumber ← parsed (codecs.word.decode row.userRandomNumber)
  let requestTxHash ← parsed (codecs.txHash.decode row.requestTxHash)
  let sender ← parsed (codecs.address.decode row.sender)
  let gasLimit ← orMessage (u32.decode row.gasLimit) "Failed to parse gas limit"
  let state ← rowState K codecs row userRandomNumber
  pure
    { chainId := row.chainId
      networkId := asU64 row.networkId
      provider
      sequence := asU64 row.sequence
      createdAt
      lastUpdatedAt
      requestBlockNumber := asU64 row.requestBlockNumber
      requestTxHash
      gasLimit
      userRandomNumber
      sender
      state }

/-- The whole milliseconds of a time. -/
def wholeMillis (nanoseconds : ℤ) : ℤ := timestampMillis nanoseconds * 1000000

/-- The state with the combined random number of its contributions. -/
def RequestEntryState.recombined (userRandomNumber : Bytes32) :
    RequestEntryState Bytes32 → RequestEntryState Bytes32
  | .completed revealBlockNumber revealTxHash providerRandomNumber gasUsed _ callbackFailed
      callbackReturnValue callbackGasUsed =>
      .completed revealBlockNumber revealTxHash providerRandomNumber gasUsed
        (generateCombinedRandomNumber K userRandomNumber providerRandomNumber) callbackFailed
        callbackReturnValue callbackGasUsed
  | state => state

/-- **What is read of a status**: its times in whole milliseconds, and the combined random number
computed again. -/
def RequestStatus.stored (status : RequestStatus Bytes32) : RequestStatus Bytes32 :=
  { status with
    createdAt := wholeMillis status.createdAt
    lastUpdatedAt := wholeMillis status.lastUpdatedAt
    state := status.state.recombined K status.userRandomNumber }

/-- The pending status of a request, at some earlier time. -/
def RequestStatus.asPending (status : RequestStatus Bytes32) (firstUpdatedAt : ℤ) :
    RequestStatus Bytes32 :=
  { status with
    state := .pending
    lastUpdatedAt := firstUpdatedAt }

/-- The writes of a request: its pending row, and then its terminal update. -/
def writeRequest (table : RequestTable) (status : RequestStatus Bytes32) (firstUpdatedAt : ℤ) :
    RequestTable :=
  match status.state with
  | .pending => updateRequestStatus codecs table status
  | _ => updateRequestStatus codecs
      (updateRequestStatus codecs table (status.asPending firstUpdatedAt)) status

end Reading

section RoundTrip

variable {Bytes32 : Type} {K : Keccak Bytes32} {codecs : Codecs Bytes32}

theorem parsed_encode {α : Type} {P : α → Prop} (codec : Codec α Text P) {a : α} (valid : P a) :
    parsed (codec.decode (codec.encode a)) = .ok a := by
  rw [codec.decode_encode valid]
  rfl

theorem orMessage_encode {α : Type} {P : α → Prop} (codec : Codec α Text P) {a : α} (valid : P a)
    (text : String) : orMessage (codec.decode (codec.encode a)) text = .ok a := by
  rw [codec.decode_encode valid]
  rfl

/-- A time that `chrono` has. -/
theorem orMessage_time {nanoseconds : ℤ} (within : codecs.minMillis ≤ timestampMillis nanoseconds ∧
    timestampMillis nanoseconds ≤ codecs.maxMillis) (text : String) :
    orMessage (fromTimestampMillis codecs (timestampMillis nanoseconds)) text =
      .ok (wholeMillis nanoseconds) := by
  unfold fromTimestampMillis
  rw [if_pos within]
  rfl

/-- The row of a status, in the state that is read. -/
structure RequestRow.Holds (codecs : Codecs Bytes32) (status : RequestStatus Bytes32)
    (row : RequestRow) : Prop where
  made : ∃ firstUpdatedAt, (pendingRow codecs (status.asPending firstUpdatedAt)).SameRequest row
  updated : row.lastUpdatedAt = timestampMillis status.lastUpdatedAt

/-- The columns that do not depend on the state. -/
theorem tryFrom_of_holds {status : RequestStatus Bytes32} (typed : status.Typed codecs)
    {row : RequestRow} (holds : row.Holds codecs status)
    (read : rowState K codecs row status.userRandomNumber =
      .ok (status.state.recombined K status.userRandomNumber)) :
    tryFrom K codecs row = .ok (status.stored K) := by
  obtain ⟨⟨firstUpdatedAt, made⟩, updated⟩ := holds
  have chainId : row.chainId = status.chainId := congrArg RequestRow.chainId made
  have network : row.networkId = asI64 status.networkId := by
    rw [made]
    simp only [pendingRow, RequestStatus.asPending]
  have provider : row.provider = codecs.address.encode status.provider :=
    congrArg RequestRow.provider made
  have sequence : row.sequence = asI64 status.sequence := by
    rw [made]
    simp only [pendingRow, RequestStatus.asPending]
  have created : row.createdAt = timestampMillis status.createdAt :=
    congrArg RequestRow.createdAt made
  have block : row.requestBlockNumber = asI64 status.requestBlockNumber := by
    rw [made]
    simp only [pendingRow, RequestStatus.asPending]
  have txHash : row.requestTxHash = codecs.txHash.encode status.requestTxHash :=
    congrArg RequestRow.requestTxHash made
  have user : row.userRandomNumber = codecs.word.encode status.userRandomNumber :=
    congrArg RequestRow.userRandomNumber made
  have sender : row.sender = codecs.address.encode status.sender := congrArg RequestRow.sender made
  have gas : row.gasLimit = u32.encode status.gasLimit := congrArg RequestRow.gasLimit made
  unfold tryFrom
  rw [provider, parsed_encode _ trivial, created, orMessage_time typed.createdAt, updated,
    orMessage_time typed.lastUpdatedAt, user, parsed_encode _ trivial, txHash,
    parsed_encode _ trivial, sender, parsed_encode _ trivial, gas,
    orMessage_encode u32 (a := status.gasLimit) typed.gasLimit]
  show (rowState K codecs row status.userRandomNumber >>= _) = _
  rw [read, chainId, network, sequence, block, Codec.asU64_asI64 typed.networkId,
    Codec.asU64_asI64 typed.sequence, Codec.asU64_asI64 typed.requestBlockNumber]
  rfl

/-- The states are different texts. -/
theorem completed_ne_pending : "Completed".toList ≠ "Pending".toList :=
  fun same => absurd (String.toList_inj.mp same) (by decide)

theorem failed_ne_pending : "Failed".toList ≠ "Pending".toList :=
  fun same => absurd (String.toList_inj.mp same) (by decide)

theorem failed_ne_completed : "Failed".toList ≠ "Completed".toList :=
  fun same => absurd (String.toList_inj.mp same) (by decide)

theorem rowState_pending {row : RequestRow} (state : row.state = "Pending".toList)
    (userRandomNumber : Bytes32) : rowState K codecs row userRandomNumber = .ok .pending := by
  unfold rowState
  rw [state, if_pos rfl]

theorem rowState_completed {row : RequestRow} (state : row.state = "Completed".toList)
    (userRandomNumber : Bytes32) :
    rowState K codecs row userRandomNumber = completedState K codecs row userRandomNumber := by
  unfold rowState
  rw [state, if_neg completed_ne_pending, if_pos rfl]

theorem rowState_failed {row : RequestRow} (state : row.state = "Failed".toList)
    (userRandomNumber : Bytes32) :
    rowState K codecs row userRandomNumber = failedState codecs row := by
  unfold rowState
  rw [state, if_neg failed_ne_pending, if_neg failed_ne_completed, if_pos rfl]

/-- The columns that are written of a completed request. -/
theorem completedState_written {row : RequestRow} {userRandomNumber : Bytes32} {revealBlockNumber : ℕ}
    {revealTxHash providerRandomNumber : Bytes32} {gasUsed : ℕ} {callbackFailed : Bool}
    {callbackReturnValue : Bytes} {callbackGasUsed : ℕ} (typed : revealBlockNumber < 2 ^ 64 ∧
      gasUsed < 2 ^ 256 ∧ callbackGasUsed < 2 ^ 32)
    (block : row.revealBlockNumber = some (asI64 revealBlockNumber))
    (txHash : row.revealTxHash = some (codecs.txHash.encode revealTxHash))
    (number : row.providerRandomNumber = some (codecs.word.encode providerRandomNumber))
    (gas : row.gasUsed = some (codecs.u256.encode gasUsed))
    (failed : row.callbackFailed = some (if callbackFailed then 1 else 0))
    (value : row.callbackReturnValue = some (codecs.bytes.encode callbackReturnValue))
    (callbackGas : row.callbackGasUsed = some (u32.encode callbackGasUsed)) :
    completedState K codecs row userRandomNumber =
      .ok (.completed revealBlockNumber revealTxHash providerRandomNumber gasUsed
        (generateCombinedRandomNumber K userRandomNumber providerRandomNumber) callbackFailed
        callbackReturnValue callbackGasUsed) := by
  have flag : ((if callbackFailed then (1 : ℤ) else 0) == 1) = callbackFailed := by
    cases callbackFailed with
    | false => rfl
    | true => rfl
  unfold completedState
  rw [block, txHash, number, gas, failed, value, callbackGas]
  show (parsed (codecs.txHash.decode (codecs.txHash.encode revealTxHash)) >>= _) = _
  rw [parsed_encode _ trivial]
  show (parsed (codecs.word.decode (codecs.word.encode providerRandomNumber)) >>= _) = _
  rw [parsed_encode _ trivial]
  show (orMessage (codecs.u256.decode (codecs.u256.encode gasUsed)) _ >>= _) = _
  rw [orMessage_encode codecs.u256 (a := gasUsed) typed.2.1]
  show (orMessage (u32.decode (u32.encode callbackGasUsed)) _ >>= _) = _
  rw [orMessage_encode u32 (a := callbackGasUsed) typed.2.2]
  simp only [Option.getD_some, Option.map_some, codecs.bytes.decode_encode trivial, flag,
    Codec.asU64_asI64 typed.1]
  rfl

/-- The columns that are written of a failed request. -/
theorem failedState_written {row : RequestRow} {reason : Text}
    {providerRandomNumber : Option Bytes32} (info : row.info = some reason)
    (number : row.providerRandomNumber = providerRandomNumber.map codecs.word.encode) :
    failedState codecs row = .ok (.failed reason providerRandomNumber) := by
  unfold failedState
  rw [number, info]
  cases providerRandomNumber with
  | none => rfl
  | some contribution =>
    show (parsed (codecs.word.decode (codecs.word.encode contribution)) >>= _) = _
    rw [parsed_encode _ trivial]
    rfl

/-- **Round trip**: a request whose key is new is written, first as pending and then in its terminal
state, and its row is read back as the status with its times in whole milliseconds and the combined
random number of its two contributions. -/
theorem tryFrom_written {table : RequestTable} {status : RequestStatus Bytes32}
    (typed : status.Typed codecs) (firstUpdatedAt : ℤ)
    (fresh : table.find (status.rowKey codecs) = none) :
    ∃ row, (writeRequest codecs table status firstUpdatedAt).find (status.rowKey codecs) = some row ∧
      tryFrom K codecs row = .ok (status.stored K) := by
  have first : ∀ firstUpdatedAt : ℤ,
      (updateRequestStatus codecs table (status.asPending firstUpdatedAt)).find
        (status.rowKey codecs) = some (pendingRow codecs (status.asPending firstUpdatedAt)) :=
    fun _ => (updateRequestStatus_writes table _).created fresh rfl
  have inserted := first firstUpdatedAt
  unfold writeRequest
  generalize updateRequestStatus codecs table (status.asPending firstUpdatedAt) = table' at inserted ⊢
  cases state : status.state with
  | pending =>
    have same : status.asPending status.lastUpdatedAt = status := by
      unfold RequestStatus.asPending
      rw [← state]
    have row := first status.lastUpdatedAt
    rw [same] at row
    refine ⟨_, row, tryFrom_of_holds typed ⟨⟨status.lastUpdatedAt, ?_⟩, rfl⟩ ?_⟩
    · rw [same]
      exact .refl _
    · rw [rowState_pending rfl, state]
      rfl
  | completed =>
    have typedState := typed.state
    rw [state] at typedState
    unfold updateRequestStatus
    rw [state]
    have here := decide_eq_true (pendingRow_key codecs (status.asPending firstUpdatedAt))
    refine ⟨_, KeyedTable.find_update_of_met _ inserted here,
      tryFrom_of_holds typed ⟨⟨firstUpdatedAt, rfl⟩, rfl⟩ ?_⟩
    rw [rowState_completed rfl, state]
    exact completedState_written typedState rfl rfl rfl rfl rfl rfl rfl
  | failed =>
    unfold updateRequestStatus
    rw [state]
    have here := decide_eq_true (pendingRow_key codecs (status.asPending firstUpdatedAt))
    have state' := decide_eq_true (pendingRow_state codecs (status.asPending firstUpdatedAt))
    have met := Bool.and_eq_true_iff.mpr ⟨here, state'⟩
    refine ⟨_, KeyedTable.find_update_of_met _ inserted met,
      tryFrom_of_holds typed ⟨⟨firstUpdatedAt, rfl⟩, rfl⟩ ?_⟩
    rw [rowState_failed rfl, state]
    exact failedState_written rfl rfl

end RoundTrip

namespace Sample

def hexBytes : Codec Bytes Text fun _ => True :=
  ⟨Hex.encode, Hex.decode, fun _ => Hex.decode_encode _⟩

/-- An address in 20 bytes. -/
def addressBytes (address : Address) : Bytes := Hex.ofNat 20 address.toNat

def readAddress (bytes : Bytes) : Option Address :=
  if bytes.length = 20 then some (BitVec.ofNat 160 (Hex.value bytes)) else none

theorem readAddress_addressBytes (address : Address) :
    readAddress (addressBytes address) = some address := by
  have fits : address.toNat < 256 ^ 20 := address.isLt
  unfold readAddress addressBytes
  rw [if_pos (Hex.ofNat_length _ _), Hex.value_ofNat, Nat.mod_eq_of_lt fits, BitVec.ofNat_toNat,
    BitVec.setWidth_eq]

/-- Hex and decimal text, and the years from -262143 to 262142. -/
def codecs : Codecs Bytes where
  txHash := hexBytes
  word := hexBytes
  address := hexBytes.via addressBytes readAddress (fun _ => trivial) readAddress_addressBytes
  bytes := hexBytes
  u256 := .decimal (2 ^ 256)
  minMillis := -8334601228800000
  maxMillis := 8210266876799999

/-- `keccak256` of the contributions below and a zero word. -/
def combinedKeccak : Keccak Bytes where
  keccak256 _ := wordBytes 0x5caf223b0a565d436410a116eb6af63276f4104653f629baea8bcfc384ed7f99
  requestHash := keyBytes
  requestHash_injective _ _ same := keyBytes_injective same
  shortHash _ := slot
  word := wordBytes

/-- A request that was revealed: its last block and its gas are as large as can be, and its times are
not whole milliseconds. -/
def revealedStatus : RequestStatus Bytes where
  chainId := "sample".toList
  networkId := 1
  provider := provider
  sequence := 1
  createdAt := 1754524800000123456
  lastUpdatedAt := 1754524801000654321
  requestBlockNumber := 100
  requestTxHash := wordBytes 101
  gasLimit := 500000
  userRandomNumber := List.replicate 32 0xab
  sender := user
  state := .completed (2 ^ 64 - 1) (wordBytes 102) (List.replicate 32 0xcd) (2 ^ 256 - 1)
    (wordBytes 0) true [0xde, 0xad] 21000

theorem revealedStatus_typed : revealedStatus.Typed codecs where
  networkId := by decide
  sequence := by decide
  requestBlockNumber := by decide
  gasLimit := by decide
  createdAt := by decide
  lastUpdatedAt := by decide
  state := by
    show _ < _ ∧ _ < _ ∧ _ < _
    decide

end Sample

/-- A completed request in an empty table. -/
theorem tryFrom_written_revealed :
    ∃ row, (writeRequest Sample.codecs .empty Sample.revealedStatus 0).find
        (Sample.revealedStatus.rowKey Sample.codecs) = some row ∧
      tryFrom Sample.combinedKeccak Sample.codecs row =
        .ok (Sample.revealedStatus.stored Sample.combinedKeccak) :=
  tryFrom_written Sample.revealedStatus_typed 0 KeyedTable.find_empty

end Dice
