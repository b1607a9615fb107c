/-
**The explorer**: what `/v1/logs` answers.

* `RequestQueryBuilder` — the conditions of a query as they are collected, and `execute` and
  `countResults`, the two statements that are made of them.
* `explorer` — the handler.
* `Wanted` — what a query asks for, in terms of statuses.
* `explorer_lists` — the handler finds exactly the known requests that are wanted, the newest first,
  and answers with a page of them.
* `explorer_pages` — the pages are all of them, each once, if they were made at different times.
* `explorer_states` — every request is found under exactly one state.

The database is asked for the rows by their creation time only. How rows of the same millisecond stand
is up to it, and may be different for each statement and each limit and offset (`Orders`). An offset
below zero is none, as in SQLite; PostgreSQL refuses it.
-/

import Dice.Library.Listing
import Dice.Service.Recording

set_option linter.unusedSectionVars false

namespace Dice

open Codec (asI64 asU64)
open Listing (OrderBy page)

/-- `LOG_RETURN_LIMIT`. -/
def logReturnLimit : ℕ := 1000

/-- `StateTag`. -/
inductive StateTag where
  | pending
  | failed
  | completed
  | callbackErrored
  deriving DecidableEq, Repr

/-- `SearchField`. -/
inductive SearchField (Bytes32 : Type) where
  | txHash (txHash : Bytes32)
  | sender (sender : Address)
  | sequenceNumber (sequenceNumber : ℤ)

/-- `RequestQueryBuilderError`. -/
inductive QueryError where
  | limitTooLarge
  | zeroLimit
  | invalidSearch
  deriving DecidableEq, Repr

/-- `RequestQueryBuilder`, without its pool. Times are nanoseconds. -/
structure RequestQueryBuilder (Bytes32 : Type) where
  search : Option (SearchField Bytes32)
  networkId : Option ℤ
  state : Option StateTag
  limit : ℤ
  offset : ℤ
  minTimestamp : ℤ
  maxTimestamp : ℤ

/-- What the database makes of `ORDER BY created_at DESC`, for each query. -/
abbrev Orders (Bytes32 : Type) := RequestQueryBuilder Bytes32 → OrderBy RequestRow.createdAt

/-- `u64::from_str`. -/
def u64 : Codec ℕ Text (· < 2 ^ 64) := .unsigned (2 ^ 64)

namespace RequestQueryBuilder

variable {Bytes32 : Type} (codecs : Codecs Bytes32) (builder : RequestQueryBuilder Bytes32)

/-- Between December 12th of 2012 and of 2050. -/
def new : RequestQueryBuilder Bytes32 where
  search := none
  networkId := none
  state := none
  limit := logReturnLimit
  offset := 0
  minTimestamp := 1355314332000000000
  maxTimestamp := 2554459932000000000

/-- The field that a text names: the first parser that accepts it. -/
def parseSearch (search : Text) : Option (SearchField Bytes32) :=
  match codecs.txHash.decode search with
  | some txHash => some (.txHash txHash)
  | none =>
      match codecs.address.decode search with
      | some sender => some (.sender sender)
      | none => (u64.decode search).map fun sequenceNumber => .sequenceNumber (asI64 sequenceNumber)

def withSearch (search : Text) : Except QueryError (RequestQueryBuilder Bytes32) :=
  match parseSearch codecs search with
  | some field => .ok { builder with search := some field }
  | none => .error .invalidSearch

def withNetworkId (networkId : ℕ) : RequestQueryBuilder Bytes32 :=
  { builder with networkId := some (asI64 networkId) }

def withState (state : StateTag) : RequestQueryBuilder Bytes32 :=
  { builder with state := some state }

def withLimit (limit : ℕ) : Except QueryError (RequestQueryBuilder Bytes32) :=
  if limit > logReturnLimit then .error .limitTooLarge
  else if limit = 0 then .error .zeroLimit
  else .ok { builder with limit := asI64 limit }

def withOffset (offset : ℕ) : RequestQueryBuilder Bytes32 :=
  { builder with offset := asI64 offset }

def withMinTimestamp (minTimestamp : ℤ) : RequestQueryBuilder Bytes32 :=
  { builder with minTimestamp }

def withMaxTimestamp (maxTimestamp : ℤ) : RequestQueryBuilder Bytes32 :=
  { builder with maxTimestamp }

/-- The column `state` of a tag. -/
def stateText : StateTag → Text
  | .pending => "Pending".toList
  | .failed => "Failed".toList
  | .completed => "Completed".toList
  | .callbackErrored => "Completed".toList

/-- The condition on the searched columns. A column that is null equals nothing. -/
def selectsSearch (row : RequestRow) : Bool :=
  match builder.search with
  | some (.txHash txHash) =>
      row.requestTxHash = codecs.txHash.encode txHash ∨
        row.revealTxHash = some (codecs.txHash.encode txHash)
  | some (.sender sender) => row.sender = codecs.address.encode sender
  | some (.sequenceNumber sequenceNumber) => row.sequence = sequenceNumber
  | none => true

def selectsState (row : RequestRow) : Bool :=
  match builder.state with
  | some state => row.state = stateText state ∧
      (state = .completed → row.callbackFailed = some 0) ∧
      (state = .callbackErrored → row.callbackFailed = some 1)
  | none => true

def selectsNetwork (row : RequestRow) : Bool :=
  match builder.networkId with
  | some networkId => row.networkId = networkId
  | none => true

/-- `WHERE`. -/
def selects (row : RequestRow) : Bool :=
  (decide (timestampMillis builder.minTimestamp ≤ row.createdAt ∧
      row.createdAt ≤ timestampMillis builder.maxTimestamp) &&
    builder.selectsSearch codecs row) && (builder.selectsNetwork row && builder.selectsState row)

/-- `execute`. The database orders the rows by their creation, and an offset below zero is none. Rows
that cannot be read are left out. -/
def execute (K : Keccak Bytes32) (orders : Orders Bytes32) (table : RequestTable) :
    List (RequestStatus Bytes32) :=
  (page builder.limit.toNat builder.offset.toNat
    ((orders builder).arrange (table.rows.filter (builder.selects codecs)))).filterMap fun row =>
      (tryFrom K codecs row).toOption

/-- `count_results`. -/
def countResults (table : RequestTable) : ℕ :=
  (table.rows.filter (builder.selects codecs)).length

end RequestQueryBuilder

/-! ### The handler -/

structure ExplorerQueryParams where
  minTimestamp : Option ℤ
  maxTimestamp : Option ℤ
  query : Option Text
  networkId : Option ℕ
  state : Option StateTag
  limit : Option ℕ
  offset : Option ℕ

structure ExplorerResponse (Bytes32 : Type) where
  requests : List (RequestStatus Bytes32)
  totalResults : ℕ

/-- `RestError`, as far as `explorer` returns it. -/
inductive ExplorerError where
  | invalidChainId
  | invalidQueryString
  | temporarilyUnavailable
  deriving DecidableEq, Repr

section Handler

variable {Bytes32 : Type} (K : Keccak Bytes32) (codecs : Codecs Bytes32)

/-- `map_err`. -/
def invalidQuery {α : Type} : Except QueryError α → Except ExplorerError α
  | .ok a => .ok a
  | .error _ => .error .invalidQueryString

/-- `if let Some`. -/
def ifSome {α β : Type} (value : Option α) (set : β → α → β) (b : β) : β :=
  match value with
  | some a => set b a
  | none => b

/-- The same with `?`. -/
def ifSomeOk {α β ε : Type} (value : Option α) (set : β → α → Except ε β) (b : β) : Except ε β :=
  match value with
  | some a => set b a
  | none => .ok b

/-- The query that the parameters make. -/
def ExplorerQueryParams.toQuery (params : ExplorerQueryParams) :
    Except ExplorerError (RequestQueryBuilder Bytes32) := do
  let query ← ifSomeOk params.query (fun query search => invalidQuery (query.withSearch codecs search))
    .new
  let query := ifSome params.networkId .withNetworkId query
  let query := ifSome params.state .withState query
  let query ← ifSomeOk params.limit (fun query limit => invalidQuery (query.withLimit limit)) query
  let query := ifSome params.offset .withOffset query
  let query := ifSome params.minTimestamp .withMinTimestamp query
  pure (ifSome params.maxTimestamp .withMaxTimestamp query)

/-- `explorer`, for chains that are uninitialized or have a network id. The two statements are made
at the same time: each sees the table as it is then, or fails. -/
def explorer (orders : Orders Bytes32) (chains : List (Option ℕ))
    (params : ExplorerQueryParams) (forRequests forCount : Option RequestTable) :
    Except ExplorerError (ExplorerResponse Bytes32) :=
  if ∃ networkId ∈ params.networkId, some networkId ∉ chains then .error .invalidChainId
  else do
    let query ← params.toQuery codecs
    match forRequests, forCount with
    | some forRequests, some forCount =>
        pure ⟨query.execute codecs K orders forRequests, query.countResults codecs forCount⟩
    | _, _ => .error .temporarilyUnavailable

end Handler

/-! ### What a query asks for -/

section Wanted

variable {Bytes32 : Type} (codecs : Codecs Bytes32)

def RequestEntryState.revealTxHash : RequestEntryState Bytes32 → Option Bytes32
  | .completed _ revealTxHash _ _ _ _ _ _ => some revealTxHash
  | _ => none

def RequestEntryState.tag : RequestEntryState Bytes32 → StateTag
  | .pending => .pending
  | .completed _ _ _ _ _ callbackFailed _ _ =>
      if callbackFailed then .callbackErrored else .completed
  | .failed _ _ => .failed

/-- What a text finds: as a transaction hash, an address, or a sequence number. -/
def Finds (search : Text) (status : RequestStatus Bytes32) : Prop :=
  match codecs.txHash.decode search with
  | some txHash => status.requestTxHash = txHash ∨ status.state.revealTxHash = some txHash
  | none =>
      match codecs.address.decode search with
      | some sender => status.sender = sender
      | none => u64.decode search = some status.sequence

/-- **What a query asks for.** -/
structure Wanted (params : ExplorerQueryParams) (status : RequestStatus Bytes32) : Prop where
  newer : timestampMillis (params.minTimestamp.getD 1355314332000000000) ≤
    timestampMillis status.createdAt
  older : timestampMillis status.createdAt ≤
    timestampMillis (params.maxTimestamp.getD 2554459932000000000)
  found : ∀ search ∈ params.query, Finds codecs search status
  network : ∀ networkId ∈ params.networkId, status.networkId = networkId
  state : ∀ tag ∈ params.state, status.state.tag = tag

/-- A query text that no parser accepts, or a limit that is not allowed. -/
def ExplorerQueryParams.Invalid (params : ExplorerQueryParams) : Prop :=
  (∃ search ∈ params.query, RequestQueryBuilder.parseSearch codecs search = none) ∨
    ∃ limit ∈ params.limit, limit = 0 ∨ logReturnLimit < limit

/-- The query of valid parameters. -/
def ExplorerQueryParams.built (params : ExplorerQueryParams) : RequestQueryBuilder Bytes32 where
  search := params.query.bind (RequestQueryBuilder.parseSearch codecs)
  networkId := params.networkId.map asI64
  state := params.state
  limit := params.limit.elim logReturnLimit asI64
  offset := params.offset.elim 0 asI64
  minTimestamp := params.minTimestamp.getD 1355314332000000000
  maxTimestamp := params.maxTimestamp.getD 2554459932000000000

variable {codecs} {params : ExplorerQueryParams}

/-- A text that a parser accepts, and its query. -/
theorem searched (parses : ∀ search ∈ params.query,
    RequestQueryBuilder.parseSearch codecs search ≠ none) (builder : RequestQueryBuilder Bytes32)
    (empty : builder.search = none) :
    ifSomeOk params.query (fun query search => invalidQuery (query.withSearch codecs search)) builder =
      .ok { builder with
        search := params.query.bind (RequestQueryBuilder.parseSearch codecs) } := by
  cases query : params.query with
  | none =>
    show _ = Except.ok { builder with search := none }
    rw [← empty]
    rfl
  | some search =>
    cases parsed : RequestQueryBuilder.parseSearch codecs search with
    | none => exact absurd parsed (parses search query)
    | some field =>
      simp only [ifSomeOk, RequestQueryBuilder.withSearch, parsed, invalidQuery, Option.bind_some]

/-- A limit that is allowed. -/
theorem limited (allowed : ∀ limit ∈ params.limit, limit ≠ 0 ∧ limit ≤ logReturnLimit)
    (builder : RequestQueryBuilder Bytes32) (unlimited : builder.limit = logReturnLimit) :
    ifSomeOk params.limit (fun query limit => invalidQuery (query.withLimit limit)) builder =
      .ok { builder with limit := params.limit.elim logReturnLimit asI64 } := by
  cases given : params.limit with
  | none =>
    rw [Option.elim_none, ← unlimited]
    rfl
  | some limit =>
    obtain ⟨positive, small⟩ := allowed limit given
    unfold ifSomeOk RequestQueryBuilder.withLimit
    simp only []
    rw [if_neg (Nat.not_lt.mpr small), if_neg positive, Option.elim_some]
    rfl

/-- The parameters that cannot be invalid. -/
theorem dressed (builder : RequestQueryBuilder Bytes32) :
    ifSome params.maxTimestamp .withMaxTimestamp (ifSome params.minTimestamp .withMinTimestamp
        (ifSome params.offset .withOffset builder)) =
      { builder with
        offset := params.offset.elim builder.offset asI64
        minTimestamp := params.minTimestamp.getD builder.minTimestamp
        maxTimestamp := params.maxTimestamp.getD builder.maxTimestamp } := by
  have offset : ifSome params.offset .withOffset builder =
      { builder with offset := params.offset.elim builder.offset asI64 } := by
    cases params.offset with
    | none => rfl
    | some offset =>
      rw [Option.elim_some]
      rfl
  rw [offset]
  cases params.minTimestamp <;> cases params.maxTimestamp <;> rfl

/-- **The query of the parameters.** -/
theorem toQuery_of_valid (valid : ¬ params.Invalid codecs) :
    params.toQuery codecs = .ok (params.built codecs) := by
  simp only [ExplorerQueryParams.Invalid, not_or, not_exists, not_and, Nat.not_lt] at valid
  obtain ⟨parses, allowed⟩ := valid
  have network : ∀ builder : RequestQueryBuilder Bytes32, builder.networkId = none →
      builder.state = none →
      ifSome params.state .withState (ifSome params.networkId .withNetworkId builder) =
        { builder with networkId := params.networkId.map asI64, state := params.state } := by
    rintro ⟨search, _, _, limit, offset, minTimestamp, maxTimestamp⟩ rfl rfl
    cases params.networkId <;> cases params.state <;> rfl
  unfold ExplorerQueryParams.toQuery
  rw [searched parses _ rfl]
  show (ifSomeOk params.limit _ (ifSome params.state _ (ifSome params.networkId _ _)) >>= _) = _
  rw [network _ rfl rfl, limited allowed _ rfl]
  show Except.ok (ifSome _ _ (ifSome _ _ (ifSome _ _ _))) = _
  rw [dressed]
  rfl

theorem toQuery_of_invalid (invalid : params.Invalid codecs) :
    params.toQuery codecs = .error .invalidQueryString := by
  unfold ExplorerQueryParams.toQuery
  by_cases parses : ∀ search ∈ params.query,
      RequestQueryBuilder.parseSearch codecs search ≠ none
  · rw [searched parses _ rfl]
    obtain ⟨search, given, unparsed⟩ | ⟨limit, given, refused⟩ := invalid
    · exact absurd unparsed (parses search given)
    · show (ifSomeOk params.limit _ _ >>= _) = _
      rw [Option.mem_def.mp given]
      show (invalidQuery (RequestQueryBuilder.withLimit _ limit) >>= _) = _
      unfold RequestQueryBuilder.withLimit
      by_cases large : limit > logReturnLimit
      · rw [if_pos large]
        rfl
      · rw [if_neg large, if_pos (refused.resolve_right large)]
        rfl
  · simp only [not_forall, not_not] at parses
    obtain ⟨search, given, unparsed⟩ := parses
    rw [Option.mem_def.mp given]
    show (invalidQuery (RequestQueryBuilder.withSearch codecs _ search) >>= _) = _
    unfold RequestQueryBuilder.withSearch
    rw [unparsed]
    rfl

/-! ### Rows that are selected -/

variable {row : RequestRow} {status : RequestStatus Bytes32}

/-- The searched columns. -/
theorem selectsSearch_iff (shows : Shows codecs row status)
    (parses : ∀ search ∈ params.query, RequestQueryBuilder.parseSearch codecs search ≠ none) :
    (params.built codecs).selectsSearch codecs row = true ↔
      ∀ search ∈ params.query, Finds codecs search status := by
  obtain ⟨_, _, sequence, txHash, sender⟩ := shows.fields
  have reveal : row.revealTxHash = status.state.revealTxHash.map codecs.txHash.encode := by
    have columns := shows.columns
    generalize status.state = state at columns
    cases columns with
    | pending _ none _ => exact none
    | completed _ _ some _ _ _ _ _ => exact some
    | failed _ _ _ none _ => exact none
  have injective : ∀ {first second : Bytes32}, codecs.txHash.encode first =
      codecs.txHash.encode second ↔ first = second :=
    ⟨codecs.txHash.injective trivial trivial, congrArg _⟩
  cases query : params.query with
  | none =>
    simp [RequestQueryBuilder.selectsSearch, ExplorerQueryParams.built, query]
  | some search =>
    have parse := parses search query
    unfold RequestQueryBuilder.selectsSearch ExplorerQueryParams.built
    simp only [query, Option.bind_some, Option.mem_some_iff, forall_eq']
    unfold Finds
    unfold RequestQueryBuilder.parseSearch at parse ⊢
    cases hash : codecs.txHash.decode search with
    | some wanted =>
      have mapped : status.state.revealTxHash.map codecs.txHash.encode =
          some (codecs.txHash.encode wanted) ↔ status.state.revealTxHash = some wanted := by
        cases status.state.revealTxHash with
        | none => exact ⟨nofun, nofun⟩
        | some revealed => simp only [Option.map_some, Option.some.injEq, injective]
      simp only [decide_eq_true_eq, txHash, injective, reveal, mapped]
    | none =>
      rw [hash] at parse
      cases address : codecs.address.decode search with
      | some wanted =>
        simp only [decide_eq_true_eq, sender]
        exact ⟨codecs.address.injective trivial trivial, congrArg _⟩
      | none =>
        simp only [address] at parse
        cases number : u64.decode search with
        | none =>
          rw [number] at parse
          exact absurd rfl parse
        | some wanted =>
          simp only [Option.map_some, decide_eq_true_eq, sequence, Option.some.injEq]
          exact ⟨fun same => (Codec.asI64_injective shows.typed.sequence
            (Codec.unsigned_decode_lt number) same).symm, fun same => by rw [same]⟩

/-- Only the two tags of completed requests share a text. -/
theorem stateText_eq {tag tag' : StateTag} :
    RequestQueryBuilder.stateText tag = RequestQueryBuilder.stateText tag' ↔
      tag = tag' ∨ tag = .completed ∧ tag' = .callbackErrored ∨
        tag = .callbackErrored ∧ tag' = .completed := by
  have completed := completed_ne_pending
  have failed := failed_ne_pending
  have failed' := failed_ne_completed
  unfold RequestQueryBuilder.stateText
  generalize "Pending".toList = p at *
  generalize "Failed".toList = f at *
  generalize "Completed".toList = c at *
  cases tag <;> cases tag' <;>
    simp [completed, failed, failed', completed.symm, failed.symm, failed'.symm]

/-- The two columns that a tag stands for. -/
theorem Columns.tag {state : RequestEntryState Bytes32} (columns : Columns codecs row state) :
    row.state = RequestQueryBuilder.stateText state.tag ∧
      (row.callbackFailed = some 0 ↔ state.tag = .completed) ∧
      (row.callbackFailed = some 1 ↔ state.tag = .callbackErrored) := by
  cases columns with
  | pending text _ none =>
    rw [text, none]
    exact ⟨rfl, ⟨nofun, nofun⟩, nofun, nofun⟩
  | failed text _ _ _ none =>
    rw [text, none]
    exact ⟨rfl, ⟨nofun, nofun⟩, nofun, nofun⟩
  | @completed _ _ _ _ _ callbackFailed _ _ text _ _ _ _ flag _ _ =>
    rw [text, flag]
    refine ⟨?_, ?_⟩
    · cases callbackFailed <;> rfl
    · cases callbackFailed <;> simp [RequestEntryState.tag]

theorem selectsState_iff (shows : Shows codecs row status) :
    (params.built codecs).selectsState row = true ↔
      ∀ tag ∈ params.state, status.state.tag = tag := by
  obtain ⟨text, completed, errored⟩ := shows.columns.tag
  unfold RequestQueryBuilder.selectsState ExplorerQueryParams.built
  cases params.state with
  | none => simp
  | some tag =>
    simp only [Option.mem_some_iff, forall_eq', decide_eq_true_eq, text, stateText_eq, completed,
      errored]
    generalize status.state.tag = tag'
    cases tag <;> cases tag' <;> simp

theorem selectsNetwork_iff (shows : Shows codecs row status)
    (bounds : ∀ networkId ∈ params.networkId, networkId < 2 ^ 64) :
    (params.built codecs).selectsNetwork row = true ↔
      ∀ networkId ∈ params.networkId, status.networkId = networkId := by
  obtain ⟨_, network, _, _, _⟩ := shows.fields
  unfold RequestQueryBuilder.selectsNetwork ExplorerQueryParams.built
  cases given : params.networkId with
  | none => simp
  | some networkId =>
    simp only [Option.map_some, Option.mem_some_iff, forall_eq', decide_eq_true_eq, network]
    refine ⟨Codec.asI64_injective shows.typed.networkId (bounds networkId given), fun same => ?_⟩
    rw [same]

/-- **The rows that are selected show what is wanted.** -/
theorem selects_iff (shows : Shows codecs row status)
    (parses : ∀ search ∈ params.query, RequestQueryBuilder.parseSearch codecs search ≠ none)
    (bounds : ∀ networkId ∈ params.networkId, networkId < 2 ^ 64) :
    (params.built codecs).selects codecs row = true ↔ Wanted codecs params status := by
  obtain ⟨created, _⟩ := shows.fields
  unfold RequestQueryBuilder.selects
  rw [Bool.and_eq_true, Bool.and_eq_true, Bool.and_eq_true, selectsSearch_iff shows parses,
    selectsNetwork_iff shows bounds, selectsState_iff shows, decide_eq_true_eq, created]
  constructor
  · rintro ⟨⟨⟨newer, older⟩, found⟩, network, state⟩
    exact ⟨newer, older, found, network, state⟩
  · rintro ⟨newer, older, found, network, state⟩
    exact ⟨⟨⟨newer, older⟩, found⟩, network, state⟩

end Wanted

/-- A query without conditions. -/
def Sample.anyQuery : ExplorerQueryParams := ⟨none, none, none, none, none, none, none⟩

theorem Sample.anyQuery_valid (limit : Option ℕ) (allowed : ∀ n ∈ limit, n ≠ 0 ∧ n ≤ logReturnLimit) :
    ¬ ({ Sample.anyQuery with limit }).Invalid Sample.codecs := by
  rintro (⟨search, given, _⟩ | ⟨n, given, refused⟩)
  · cases given
  · obtain ⟨positive, small⟩ := allowed n given
    omega

/-! ### Listings -/

section Listings

variable {Bytes32 : Type} {codecs : Codecs Bytes32} {params : ExplorerQueryParams}

/-- Rows, each with the status that it shows. -/
theorem exists_shown {known : Known Bytes32} [DecidableEq Bytes32] (rows : List RequestRow)
    (each : ∀ row ∈ rows, ∃ status, known status.id = some status ∧ Shows codecs row status) :
    ∃ statuses : List (RequestStatus Bytes32), List.Forall₂ (fun row status =>
      known status.id = some status ∧ Shows codecs row status) rows statuses := by
  induction rows with
  | nil => exact ⟨[], .nil⟩
  | cons row rows ih =>
    obtain ⟨status, shown⟩ := each row List.mem_cons_self
    obtain ⟨statuses, rest⟩ := ih fun row member => each row (List.mem_cons_of_mem _ member)
    exact ⟨status :: statuses, .cons shown rest⟩

/-- Rows that are all read. -/
theorem read_shown {K : Keccak Bytes32} {rows : List RequestRow}
    {statuses : List (RequestStatus Bytes32)} {P : RequestStatus Bytes32 → Prop}
    (shown : List.Forall₂ (fun row status => P status ∧ Shows codecs row status) rows statuses) :
    rows.filterMap (fun row => (tryFrom K codecs row).toOption) =
      statuses.map (RequestStatus.stored K) := by
  induction shown with
  | nil => rfl
  | @cons row status rows statuses first _ ih =>
    rw [List.filterMap_cons, first.2.tryFrom, ih]
    rfl

/-- A column of the rows as a field of the statuses. -/
theorem map_shown {α : Type} {f : RequestRow → α} {g : RequestStatus Bytes32 → α}
    {rows : List RequestRow} {statuses : List (RequestStatus Bytes32)}
    {P : RequestStatus Bytes32 → Prop}
    (shown : List.Forall₂ (fun row status => P status ∧ Shows codecs row status) rows statuses)
    (same : ∀ {row status}, Shows codecs row status → f row = g status) :
    rows.map f = statuses.map g := by
  induction shown with
  | nil => rfl
  | cons first _ ih => rw [List.map_cons, List.map_cons, same first.2, ih]

/-- A text that no parser accepts finds nothing. -/
theorem not_finds {search : Text} {status : RequestStatus Bytes32}
    (unparsed : RequestQueryBuilder.parseSearch codecs search = none) :
    ¬ Finds codecs search status := by
  unfold RequestQueryBuilder.parseSearch at unparsed
  unfold Finds
  cases hash : codecs.txHash.decode search with
  | some _ =>
    rw [hash] at unparsed
    cases unparsed
  | none =>
    cases address : codecs.address.decode search with
    | some _ =>
      rw [hash] at unparsed
      simp only [address] at unparsed
      cases unparsed
    | none =>
      rw [hash] at unparsed
      simp only [address, Option.map_eq_none_iff] at unparsed
      simp only [unparsed]
      exact nofun

/-- The rows that are selected, the newest first, and the requests that they show. -/
theorem exists_listing [DecidableEq Bytes32]
    (order : OrderBy RequestRow.createdAt) {known : Known Bytes32} {table : RequestTable}
    (tracks : Tracks codecs known table)
    (parses : ∀ search ∈ params.query, RequestQueryBuilder.parseSearch codecs search ≠ none)
    (bounds : ∀ networkId ∈ params.networkId, networkId < 2 ^ 64) :
    ∃ statuses : List (RequestStatus Bytes32),
      List.Forall₂ (fun row status => known status.id = some status ∧ Shows codecs row status)
        (order.arrange (table.rows.filter ((params.built codecs).selects codecs))) statuses ∧
      (∀ status, status ∈ statuses ↔ known status.id = some status ∧ Wanted codecs params status) ∧
      (statuses.map RequestStatus.id).Nodup ∧
      statuses.Pairwise fun first second =>
        timestampMillis second.createdAt ≤ timestampMillis first.createdAt := by
  have perm := order.perm (table.rows.filter ((params.built codecs).selects codecs))
  have sorted := order.sorted (table.rows.filter ((params.built codecs).selects codecs))
  generalize order.arrange (table.rows.filter ((params.built codecs).selects codecs)) = rows
    at perm sorted
  obtain ⟨statuses, shown⟩ := exists_shown rows fun row member =>
    tracks.of_row (List.mem_of_mem_filter (perm.subset member))
  have keys : rows.map RequestRow.key = statuses.map (RequestStatus.rowKey codecs) :=
    map_shown shown Shows.key
  have distinct : (statuses.map (RequestStatus.rowKey codecs)).Nodup := by
    rw [← keys]
    exact (perm.map _).nodup_iff.mpr (table.unique.sublist (List.filter_sublist.map _))
  refine ⟨statuses, shown, fun status => ⟨fun member => ?_, fun ⟨seen, wanted⟩ => ?_⟩, ?_, ?_⟩
  · obtain ⟨row, member', seen, shows⟩ := Listing.partner_of_mem shown member
    have selected := List.of_mem_filter (perm.subset member')
    exact ⟨seen, (selects_iff shows parses bounds).mp selected⟩
  · obtain ⟨_, row, found, shows⟩ := tracks.shown seen
    have member := (KeyedTable.find_eq_some.mp found).1
    have selected := (selects_iff shows parses bounds).mpr wanted
    have listed := perm.symm.subset (List.mem_filter.mpr ⟨member, selected⟩)
    obtain ⟨other, member', seen', shows'⟩ := Listing.partner_of_mem shown.flip listed
    have same : other.id = status.id :=
      RequestStatus.id_injective shows'.typed shows.typed.id (shows'.key.symm.trans shows.key)
    rw [same, seen] at seen'
    cases seen'
    exact member'
  · refine List.Nodup.of_map (RequestId.rowKey codecs) ?_
    rw [List.map_map]
    exact distinct
  · have created : rows.map RequestRow.createdAt =
        statuses.map fun status => timestampMillis status.createdAt :=
      map_shown shown fun shows => shows.fields.1
    have ordered : (rows.map RequestRow.createdAt).Pairwise fun first second => second ≤ first :=
      List.pairwise_map.mpr sorted
    rw [created] at ordered
    exact List.pairwise_map.mp ordered

/-- The limit of the database. -/
theorem built_limit {limit offset : Option ℕ}
    (valid : ¬ ({ params with limit, offset }).Invalid codecs) :
    (({ params with limit, offset }).built codecs).limit.toNat = limit.getD logReturnLimit := by
  cases limit with
  | none => rfl
  | some limit =>
    have small : limit ≤ logReturnLimit := by
      by_contra large
      exact valid (.inr ⟨limit, rfl, .inr (Nat.lt_of_not_le large)⟩)
    have below : limit < 2 ^ 63 := Nat.lt_of_le_of_lt small (by decide)
    unfold ExplorerQueryParams.built
    rw [Option.elim_some, Codec.toNat_asI64 (Nat.lt_trans below (by decide)), if_pos below]
    rfl

/-- The offset of the database. -/
theorem built_offset {limit offset : Option ℕ} (small : ∀ n ∈ offset, n < 2 ^ 64) :
    (({ params with limit, offset }).built codecs).offset.toNat =
      if offset.getD 0 < 2 ^ 63 then offset.getD 0 else 0 := by
  cases offset with
  | none => rfl
  | some offset =>
    unfold ExplorerQueryParams.built
    rw [Option.elim_some, Codec.toNat_asI64 (small offset rfl), Option.getD_some]

variable [DecidableEq Bytes32]

section Answers

variable {K : Keccak Bytes32} {orders : Orders Bytes32} {chains : List (Option ℕ)}
variable {table : RequestTable}

theorem explorer_unsupported
    (unsupported : ∃ networkId ∈ params.networkId, some networkId ∉ chains) :
    explorer K codecs orders chains params (some table) (some table) = .error .invalidChainId :=
  if_pos unsupported

theorem explorer_invalid
    (supported : ¬ ∃ networkId ∈ params.networkId, some networkId ∉ chains)
    (invalid : params.Invalid codecs) :
    explorer K codecs orders chains params (some table) (some table) =
      .error .invalidQueryString := by
  unfold explorer
  rw [if_neg supported, toQuery_of_invalid invalid]
  rfl

/-- A page of what is shown. -/
theorem explorer_of_shown {statuses : List (RequestStatus Bytes32)}
    {P : RequestStatus Bytes32 → Prop}
    (supported : ¬ ∃ networkId ∈ params.networkId, some networkId ∉ chains)
    (valid : ¬ params.Invalid codecs)
    (shown : List.Forall₂ (fun row status => P status ∧ Shows codecs row status)
      ((orders (params.built codecs)).arrange
        (table.rows.filter ((params.built codecs).selects codecs))) statuses) :
    explorer K codecs orders chains params (some table) (some table) =
      .ok ⟨page (params.built codecs).limit.toNat (params.built codecs).offset.toNat
        (statuses.map (RequestStatus.stored K)), statuses.length⟩ := by
  have count : (params.built codecs).countResults codecs table = statuses.length := by
    rw [RequestQueryBuilder.countResults, ← shown.length_eq, ((orders _).perm _).length_eq]
  unfold explorer
  rw [if_neg supported, toQuery_of_valid valid]
  show Except.ok _ = _
  rw [count, RequestQueryBuilder.execute, read_shown (Listing.page_partners shown _ _),
    Listing.page_map]

/-- One list for all limits and offsets, up to the order of what was created at the same time. -/
theorem exists_all (K : Keccak Bytes32) (chains : List (Option ℕ)) {known : Known Bytes32}
    (tracks : Tracks codecs known table)
    (bounds : ∀ networkId ∈ params.networkId, networkId < 2 ^ 64)
    (supported : ¬ ∃ networkId ∈ params.networkId, some networkId ∉ chains) :
    ∃ all : List (RequestStatus Bytes32),
      (∀ status, status ∈ all ↔ ∃ raw, known raw.id = some raw ∧ Wanted codecs params raw ∧
        status = raw.stored K) ∧
      (all.map RequestStatus.id).Nodup ∧
      (all.Pairwise fun first second => second.createdAt ≤ first.createdAt) ∧
      ∀ orders limit offset, (∀ n ∈ offset, n < 2 ^ 64) →
        ¬ ({ params with limit, offset }).Invalid codecs →
        ∃ arranged : List (RequestStatus Bytes32), arranged.Perm all ∧
          (arranged.Pairwise fun first second => second.createdAt ≤ first.createdAt) ∧
          explorer K codecs orders chains { params with limit, offset } (some table) (some table) =
            .ok ⟨page (limit.getD logReturnLimit)
              (if offset.getD 0 < 2 ^ 63 then offset.getD 0 else 0) arranged, all.length⟩ := by
  by_cases parses : ∀ search ∈ params.query,
      RequestQueryBuilder.parseSearch codecs search ≠ none
  · -- the statuses behind the rows, in the order of each query
    have listed : ∀ order : OrderBy RequestRow.createdAt, ∃ statuses, _ :=
      fun order => exists_listing order tracks parses bounds
    choose statuses shown members distinct sorted using listed
    have ids : ∀ order, (((statuses order).map (RequestStatus.stored K)).map
        RequestStatus.id).Nodup := by
      intro order
      rw [List.map_map]
      exact distinct order
    have newest : ∀ order, ((statuses order).map (RequestStatus.stored K)).Pairwise
        fun first second => second.createdAt ≤ first.createdAt :=
      fun order => List.pairwise_map.mpr ((sorted order).imp fun newer =>
        Int.mul_le_mul_of_nonneg_right newer (by decide))
    have perm : ∀ order, ((statuses order).map (RequestStatus.stored K)).Perm
        ((statuses (.stable _)).map (RequestStatus.stored K)) := fun order =>
      ((List.perm_ext_iff_of_nodup (.of_map _ (distinct _)) (.of_map _ (distinct _))).mpr
        fun status => (members order status).trans (members _ status).symm).map _
    refine ⟨(statuses (.stable _)).map (RequestStatus.stored K), fun status => ?_, ids _, newest _,
      fun orders limit offset small valid => ?_⟩
    · rw [List.mem_map]
      constructor
      · rintro ⟨raw, member, rfl⟩
        obtain ⟨seen, wanted⟩ := (members _ raw).mp member
        exact ⟨raw, seen, wanted, rfl⟩
      · rintro ⟨raw, seen, wanted, rfl⟩
        exact ⟨raw, (members _ raw).mpr ⟨seen, wanted⟩, rfl⟩
    · let order := orders (({ params with limit, offset }).built codecs)
      refine ⟨(statuses order).map (RequestStatus.stored K), perm order, newest order, ?_⟩
      have first : (({ params with limit, offset }).built codecs).offset.toNat = _ :=
        built_offset small
      rw [← (perm order).length_eq, List.length_map, ← built_limit valid, ← first]
      exact explorer_of_shown supported valid (shown order)
  · simp only [not_forall, not_not] at parses
    obtain ⟨search, given, unparsed⟩ := parses
    refine ⟨[], fun status => ⟨nofun, ?_⟩, List.nodup_nil, .nil,
      fun orders limit offset small valid => ?_⟩
    · rintro ⟨raw, _, wanted, _⟩
      exact absurd (wanted.found search given) (not_finds unparsed)
    · exact absurd (.inl ⟨search, given, unparsed⟩) valid

end Answers

section Runs

variable (K : Keccak Bytes32) (orders : Orders Bytes32) (chains : List (Option ℕ))
variable {steps : List (DropQueue.Step (RequestStatus Bytes32))}

/-- **What the explorer answers**, in every run of the history. It refuses network ids of chains that
are not there, and texts and limits that are not allowed. Otherwise there is one list, the newest
first, of exactly the known requests that are wanted, each once. For every limit and offset and
however the database orders what was created at the same time, the answer is the page at the offset
of that list, up to this order, and the length of the list. When no two of them were created at the
same time, it is the page of that very list. An offset from `2 ^ 63` on counts as none. -/
theorem explorer_lists (params : ExplorerQueryParams)
    (bounds : ∀ networkId ∈ params.networkId, networkId < 2 ^ 64)
    (typed : ∀ status ∈ DropQueue.offered steps, status.Typed codecs) :
    let history := History.serve codecs steps
    ((∃ networkId ∈ params.networkId, some networkId ∉ chains) → ∀ orders : Orders Bytes32,
      explorer K codecs orders chains params (some history.world) (some history.world) =
        .error .invalidChainId) ∧
    (¬ (∃ networkId ∈ params.networkId, some networkId ∉ chains) →
      (params.Invalid codecs → ∀ orders : Orders Bytes32,
        explorer K codecs orders chains params (some history.world) (some history.world) =
          .error .invalidQueryString) ∧
      ∃ all : List (RequestStatus Bytes32),
        (∀ status, status ∈ all ↔ ∃ raw, knownOf history.written raw.id = some raw ∧
          Wanted codecs params raw ∧ status = raw.stored K) ∧
        (all.map RequestStatus.id).Nodup ∧
        (all.Pairwise fun first second => second.createdAt ≤ first.createdAt) ∧
        ∀ orders limit offset, (∀ n ∈ offset, n < 2 ^ 64) →
          ¬ ({ params with limit, offset }).Invalid codecs →
          ∃ arranged : List (RequestStatus Bytes32), arranged.Perm all ∧
            (arranged.Pairwise fun first second => second.createdAt ≤ first.createdAt) ∧
            ((all.map RequestStatus.createdAt).Nodup → arranged = all) ∧
            explorer K codecs orders chains { params with limit, offset } (some history.world)
                (some history.world) =
              .ok ⟨page (limit.getD logReturnLimit)
                (if offset.getD 0 < 2 ^ 63 then offset.getD 0 else 0) arranged, all.length⟩) := by
  intro history
  refine ⟨fun unsupported _ => explorer_unsupported unsupported, fun supported =>
    ⟨fun invalid _ => explorer_invalid supported invalid, ?_⟩⟩
  obtain ⟨all, members, distinct, sorted, paged⟩ :=
    exists_all K chains (tracks_serve typed).1 bounds supported
  refine ⟨all, members, distinct, sorted, fun orders limit offset small valid => ?_⟩
  obtain ⟨arranged, perm, newest, answered⟩ := paged orders limit offset small valid
  exact ⟨arranged, perm, newest,
    fun times => (Listing.sorted_unique perm.symm sorted newest times).symm, answered⟩

theorem explorer_lists_pending : ∃ all : List (RequestStatus Bytes),
    ∃ arranged, arranged.Perm all ∧
      explorer Sample.combinedKeccak Sample.codecs (fun _ => .stable _) [none, some 1]
        { Sample.anyQuery with limit := some 10, offset := some (2 ^ 64 - 1) }
        (some (History.serve Sample.codecs Sample.historySteps).world)
        (some (History.serve Sample.codecs Sample.historySteps).world) =
      .ok ⟨page 10 0 arranged, all.length⟩ := by
  obtain ⟨_, listed⟩ := explorer_lists Sample.combinedKeccak [none, some 1] Sample.anyQuery nofun
    Sample.historySteps_typed
  obtain ⟨_, all, _, _, _, paged⟩ := listed nofun
  obtain ⟨arranged, perm, _, _, answered⟩ := paged (fun _ => .stable _) (some 10)
    (some (2 ^ 64 - 1)) (by decide) (Sample.anyQuery_valid _ (by decide))
  exact ⟨all, arranged, perm, answered⟩

/-- The requests of an answer. -/
def requestsOf (answer : Except ExplorerError (ExplorerResponse Bytes32)) :
    List (RequestStatus Bytes32) :=
  match answer with
  | .ok response => response.requests
  | .error _ => []

/-- No two of the requests that a query asks for were created in the same millisecond. -/
def CreatedApart (codecs : Codecs Bytes32) (params : ExplorerQueryParams)
    (known : Known Bytes32) : Prop :=
  ∀ first second, known first.id = some first → Wanted codecs params first →
    known second.id = some second → Wanted codecs params second →
    timestampMillis first.createdAt = timestampMillis second.createdAt → first = second

/-- **Paging**: as long as the table stays as it is, and when no two of the wanted requests were
created in the same millisecond, the pages of one limit, taken one after the other until they reach
the total, are all requests that are wanted, each once and the newest first. -/
theorem explorer_pages (params : ExplorerQueryParams)
    (bounds : ∀ networkId ∈ params.networkId, networkId < 2 ^ 64)
    (typed : ∀ status ∈ DropQueue.offered steps, status.Typed codecs)
    (supported : ¬ ∃ networkId ∈ params.networkId, some networkId ∉ chains)
    (apart : CreatedApart codecs params (knownOf (History.serve codecs steps).written))
    {limit : ℕ} (valid : ¬ ({ params with limit := some limit }).Invalid codecs) (count : ℕ)
    (fits : count * limit < 2 ^ 63) :
    let history := History.serve codecs steps
    let answer k := explorer K codecs orders chains
      { params with limit := some limit, offset := some (k * limit) }
      (some history.world) (some history.world)
    let joined := (List.range count).flatMap fun k => requestsOf (answer k)
    ∃ total, (∀ k < count, ∃ requests, requests.length ≤ limit ∧ answer k = .ok ⟨requests, total⟩) ∧
      (total ≤ count * limit → joined.length = total ∧
        (∀ status, status ∈ joined ↔ ∃ raw, knownOf history.written raw.id = some raw ∧
          Wanted codecs params raw ∧ status = raw.stored K) ∧
        (joined.map RequestStatus.id).Nodup ∧
        joined.Pairwise fun first second => second.createdAt ≤ first.createdAt) := by
  intro history answer joined
  obtain ⟨all, members, distinct, sorted, paged⟩ :=
    exists_all K chains (tracks_serve typed).1 bounds supported
  have times : (all.map RequestStatus.createdAt).Nodup := by
    refine List.Nodup.map_on (fun first member second member' same => ?_) (.of_map _ distinct)
    obtain ⟨raw, seen, wanted, rfl⟩ := (members first).mp member
    obtain ⟨raw', seen', wanted', rfl⟩ := (members second).mp member'
    have millis : timestampMillis raw.createdAt = timestampMillis raw'.createdAt :=
      Int.eq_of_mul_eq_mul_right (by decide) same
    rw [apart raw raw' seen wanted seen' wanted' millis]
  have small : ∀ k < count, k * limit < 2 ^ 63 := fun k below =>
    Nat.lt_of_le_of_lt (Nat.mul_le_mul_right limit (Nat.le_of_lt below)) fits
  have answers : ∀ k < count, answer k = .ok ⟨page limit (k * limit) all, all.length⟩ := by
    intro k below
    have inside := small k below
    have bounded : ∀ n ∈ some (k * limit), n < 2 ^ 64 := by
      rintro n same
      obtain rfl := Option.some.inj same
      exact Nat.lt_trans inside (by decide)
    obtain ⟨arranged, perm, newest, answered⟩ := paged orders (some limit) (some (k * limit)) bounded
      valid
    refine answered.trans ?_
    rw [← Listing.sorted_unique perm.symm sorted newest times, Option.getD_some, Option.getD_some,
      if_pos inside]
  refine ⟨all.length, fun k below => ⟨_, Listing.page_length_le _ _ _, answers k below⟩,
    fun enough => ?_⟩
  have same : joined = all := by
    have pages : joined = (List.range count).flatMap fun k => page limit (k * limit) all := by
      refine List.flatMap_congr fun k member => ?_
      rw [answers k (List.mem_range.mp member)]
      rfl
    rw [pages, Listing.pages_join]
    exact List.take_of_length_le enough
  rw [same]
  exact ⟨rfl, members, distinct, sorted⟩

/-- One request is known. -/
theorem Sample.historySteps_apart : CreatedApart Sample.codecs Sample.anyQuery
    (knownOf (History.serve Sample.codecs Sample.historySteps).written) := by
  have known : ∀ status : RequestStatus Bytes,
      knownOf (History.serve Sample.codecs Sample.historySteps).written status.id = some status →
        status = Sample.revealedStatus.asPending 0 := by
    intro status seen
    change Function.update (fun _ => none) (Sample.revealedStatus.asPending 0).id
      (some (Sample.revealedStatus.asPending 0)) status.id = some status at seen
    rw [Function.update_apply] at seen
    split at seen
    · exact (Option.some.inj seen).symm
    · cases seen
  intro first second seen _ seen' _ _
  rw [known first seen, known second seen']

theorem explorer_pages_pending : ∃ total, ∀ k < 3, ∃ requests, requests.length ≤ 1 ∧
    explorer Sample.combinedKeccak Sample.codecs (fun _ => .stable _) [none, some 1]
        { Sample.anyQuery with limit := some 1, offset := some (k * 1) }
        (some (History.serve Sample.codecs Sample.historySteps).world)
        (some (History.serve Sample.codecs Sample.historySteps).world) =
      .ok ⟨requests, total⟩ := by
  obtain ⟨total, answers, _⟩ := explorer_pages Sample.combinedKeccak (fun _ => .stable _)
    [none, some 1] Sample.anyQuery nofun Sample.historySteps_typed nofun Sample.historySteps_apart
    (Sample.anyQuery_valid (some 1) (by decide)) 3 (by decide)
  exact ⟨total, answers⟩

/-- What is read of a state has its tag. -/
theorem tag_stored (status : RequestStatus Bytes32) :
    (status.stored K).state.tag = status.state.tag := by
  show (status.state.recombined K status.userRandomNumber).tag = _
  cases status.state <;> rfl

/-- Lists are counted by the tags of their statuses. -/
theorem length_by_tag (all : List (RequestStatus Bytes32)) :
    all.length = (all.filter fun status => status.state.tag = .pending).length +
      (all.filter fun status => status.state.tag = .failed).length +
      (all.filter fun status => status.state.tag = .completed).length +
      (all.filter fun status => status.state.tag = .callbackErrored).length := by
  induction all with
  | nil => rfl
  | cons status all ih =>
    simp only [List.filter_cons, List.length_cons]
    generalize status.state.tag = tag
    cases tag <;> simp <;> omega

/-- **Every request is found under exactly one state.** -/
theorem explorer_states (params : ExplorerQueryParams)
    (bounds : ∀ networkId ∈ params.networkId, networkId < 2 ^ 64)
    (typed : ∀ status ∈ DropQueue.offered steps, status.Typed codecs)
    (supported : ¬ ∃ networkId ∈ params.networkId, some networkId ∉ chains)
    (valid : ¬ params.Invalid codecs) (small : ∀ n ∈ params.offset, n < 2 ^ 64) :
    let history := History.serve codecs steps
    ∃ total : Option StateTag → ℕ, (∀ state, ∃ requests,
        explorer K codecs orders chains { params with state } (some history.world)
          (some history.world) = .ok ⟨requests, total state⟩) ∧
      total none = total (some .pending) + total (some .failed) + total (some .completed) +
        total (some .callbackErrored) := by
  intro history
  have lists : ∀ state, ∃ all : List (RequestStatus Bytes32), (∀ status, status ∈ all ↔
      ∃ raw, knownOf history.written raw.id = some raw ∧
        Wanted codecs { params with state } raw ∧ status = raw.stored K) ∧ all.Nodup ∧
      ∃ requests, explorer K codecs orders chains { params with state } (some history.world)
        (some history.world) = .ok ⟨requests, all.length⟩ := by
    intro state
    obtain ⟨all, members, distinct, _, paged⟩ :=
      exists_all K chains (tracks_serve typed).1
        (show ∀ networkId ∈ ({ params with state } : ExplorerQueryParams).networkId, _ from bounds)
        supported
    obtain ⟨_, _, _, answered⟩ := paged orders params.limit params.offset small valid
    exact ⟨all, members, .of_map _ distinct, _, answered⟩
  choose all members distinct answered using lists
  have part : ∀ tag, (all (some tag)).length =
      ((all none).filter fun status => status.state.tag = tag).length := by
    intro tag
    refine ((List.perm_ext_iff_of_nodup (distinct _) ((distinct none).filter _)).mpr
      fun status => ?_).length_eq
    rw [members, List.mem_filter, members, decide_eq_true_eq]
    constructor
    · rintro ⟨raw, seen, ⟨newer, older, found, network, state⟩, rfl⟩
      exact ⟨⟨raw, seen, ⟨newer, older, found, network, nofun⟩, rfl⟩,
        (tag_stored K raw).trans (state tag rfl)⟩
    · rintro ⟨⟨raw, seen, ⟨newer, older, found, network, _⟩, rfl⟩, same⟩
      refine ⟨raw, seen, ⟨newer, older, found, network, fun other given => ?_⟩, rfl⟩
      cases given
      exact (tag_stored K raw).symm.trans same
  refine ⟨fun state => (all state).length, answered, ?_⟩
  show (all none).length = _
  simp only [part]
  exact length_by_tag (all none)

theorem explorer_states_pending : ∃ total : Option StateTag → ℕ,
    (∀ state, ∃ requests, explorer Sample.combinedKeccak Sample.codecs (fun _ => .stable _) [none, some 1]
        { Sample.anyQuery with state } (some (History.serve Sample.codecs Sample.historySteps).world)
        (some (History.serve Sample.codecs Sample.historySteps).world) =
      .ok ⟨requests, total state⟩) ∧
    total none = total (some .pending) + total (some .failed) + total (some .completed) +
      total (some .callbackErrored) :=
  explorer_states Sample.combinedKeccak (fun _ => .stable _) [none, some 1] Sample.anyQuery nofun
    Sample.historySteps_typed nofun (Sample.anyQuery_valid none nofun) nofun

end Runs

end Listings

end Dice
