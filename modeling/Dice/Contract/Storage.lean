/-
**The request table of the contract** (`requestKey` to `isActive` at the end of `DiceEntropy`), and
the proof that it is the two-level table of `SlotTable`.

The functions are the source's: `findRequest` and `clearRequest` compare provider and sequence number
with the slot, `allocRequest` saves an active occupant to the overflow mapping, `clearRequest` zeroes
only the sequence number in a slot and deletes in the mapping. A storage pointer is a `RequestRef`.

`State.lookup` is the plain map the table stands for; `findActiveRequest_eq`, `clearRequest_eq` and
`allocRequest_write` connect the source's functions to it.
-/

import Dice.Contract.Types
import Dice.Library.SlotTable

namespace Dice

variable {Bytes32 : Type} (K : Keccak Bytes32)

/-- A `storage` pointer to a request. -/
abbrev RequestRef (Bytes32 : Type) := SlotTable.Ref (Fin numRequests) (FullHash Bytes32)

/-- `requestKey`: the full hash and the short hash. -/
def requestKey (provider : Address) (sequenceNumber : ℕ) : FullHash Bytes32 × Fin numRequests :=
  let hash := K.requestHash provider sequenceNumber
  (if sequenceNumber < 2 ^ 64 then .hash hash else .beyond (provider, sequenceNumber), K.shortHash hash)

variable {K} in
/-- No two keys share a full hash. -/
theorem requestKey_injective :
    Function.Injective fun key : RequestKey => (requestKey K key.1 key.2).1 := by
  intro key key' same
  simp only [requestKey] at same
  split at same
  · next small =>
    split at same
    · next small' => exact K.requestHash_injective small small' (FullHash.hash.inj same)
    · cases same
  · split at same
    · cases same
    · exact FullHash.beyond.inj same

/-- `isActive`. -/
def isActive (req : Request Bytes32) : Bool :=
  req.sequenceNumber ≠ 0

namespace State

/-- The two mappings that hold requests. -/
def table (s : State Bytes32) :
    SlotTable.Table (Fin numRequests) (FullHash Bytes32) (Request Bytes32) :=
  ⟨s.requests, s.requestsOverflow⟩

def setTable (s : State Bytes32)
    (table : SlotTable.Table (Fin numRequests) (FullHash Bytes32) (Request Bytes32)) : State Bytes32 :=
  { s with requests := table.slots, requestsOverflow := table.overflow }

/-- Read through a storage pointer. -/
def read (s : State Bytes32) (ref : RequestRef Bytes32) : Request Bytes32 :=
  s.table.read ref

def setProvider (s : State Bytes32) (provider : Address) (info : ProviderInfo Bytes32) :
    State Bytes32 :=
  { s with providers := Function.update s.providers provider info }

theorem setProvider_self (s : State Bytes32) (provider : Address) :
    s.setProvider provider (s.providers provider) = s := by
  unfold setProvider
  rw [Function.update_eq_self]

variable [DecidableEq Bytes32]

/-- Write through a storage pointer. -/
def write (s : State Bytes32) (ref : RequestRef Bytes32) (req : Request Bytes32) : State Bytes32 :=
  s.setTable (s.table.write ref req)

/-- `req.callbackStatus = status` through a storage pointer. -/
def setCallbackStatus (s : State Bytes32) (ref : RequestRef Bytes32) (status : CallbackStatus) :
    State Bytes32 :=
  s.write ref { s.read ref with callbackStatus := status }

theorem read_setCallbackStatus (s : State Bytes32) (ref : RequestRef Bytes32)
    (status : CallbackStatus) :
    (s.setCallbackStatus ref status).read ref = { s.read ref with callbackStatus := status } :=
  SlotTable.Table.read_write_self _ _ _

theorem setCallbackStatus_twice (s : State Bytes32) (ref : RequestRef Bytes32)
    (first second : CallbackStatus) :
    (s.setCallbackStatus ref first).setCallbackStatus ref second =
      s.setCallbackStatus ref second := by
  have table : ((s.setCallbackStatus ref first).setCallbackStatus ref second).table =
      (s.setCallbackStatus ref second).table := by
    show (s.table.write ref _).write ref _ = s.table.write ref _
    rw [SlotTable.Table.write_write, read_setCallbackStatus]
  exact congrArg s.setTable table

end State

/-- `findRequest`. -/
def findRequest (s : State Bytes32) (provider : Address) (sequenceNumber : ℕ) :
    RequestRef Bytes32 :=
  let (key, shortKey) := requestKey K provider sequenceNumber
  let req := s.requests shortKey
  if req.provider = provider ∧ req.sequenceNumber = sequenceNumber then .slot shortKey
  else .overflow key

/-- `findActiveRequest`. -/
def findActiveRequest (s : State Bytes32) (provider : Address) (sequenceNumber : ℕ) :
    Except Revert (RequestRef Bytes32) :=
  let ref := findRequest K s provider sequenceNumber
  let req := s.read ref
  if !isActive req ∨ req.provider ≠ provider ∨ req.sequenceNumber ≠ sequenceNumber then
    .error .noSuchRequest
  else .ok ref

variable [DecidableEq Bytes32]

/-- `clearRequest`. -/
def clearRequest (s : State Bytes32) (provider : Address) (sequenceNumber : ℕ) : State Bytes32 :=
  let (key, shortKey) := requestKey K provider sequenceNumber
  let req := s.requests shortKey
  if req.provider = provider ∧ req.sequenceNumber = sequenceNumber then
    s.write (.slot shortKey) { req with sequenceNumber := 0 }
  else s.write (.overflow key) (.unset K)

/-- `allocRequest`: the slot for a new request, with an active occupant moved to the overflow. -/
def allocRequest (s : State Bytes32) (provider : Address) (sequenceNumber : ℕ) :
    State Bytes32 × RequestRef Bytes32 :=
  let (_, shortKey) := requestKey K provider sequenceNumber
  let req := s.requests shortKey
  if isActive req then
    let (reqKey, _) := requestKey K req.provider req.sequenceNumber
    (s.write (.overflow reqKey) req, .slot shortKey)
  else (s, .slot shortKey)

/-! ### The table is a two-level table -/

/-- The key of an active record. -/
def Request.key (req : Request Bytes32) : Option RequestKey :=
  if req.sequenceNumber = 0 then none else some (req.provider, req.sequenceNumber)

omit [DecidableEq Bytes32] in
theorem Request.key_eq_some {req : Request Bytes32} {provider : Address} {sequenceNumber : ℕ} :
    req.key = some (provider, sequenceNumber) ↔
      req.provider = provider ∧ req.sequenceNumber = sequenceNumber ∧ sequenceNumber ≠ 0 := by
  unfold Request.key
  split
  · next zero =>
    simp only [reduceCtorEq, zero, false_iff, not_and, not_not]
    exact fun _ same => same.symm
  · next active =>
    simp only [Option.some.injEq, Prod.mk.injEq]
    constructor
    · rintro ⟨rfl, rfl⟩
      exact ⟨rfl, rfl, active⟩
    · rintro ⟨rfl, rfl, _⟩
      exact ⟨rfl, rfl⟩

omit [DecidableEq Bytes32] in
theorem isActive_iff (req : Request Bytes32) : isActive req = true ↔ req.sequenceNumber ≠ 0 := by
  simp [isActive]

/-- The hashing and clearing scheme of the contract. -/
def requestScheme :
    SlotTable.Scheme (Fin numRequests) (FullHash Bytes32) RequestKey (Request Bytes32) where
  keyOf := Request.key
  short key := (requestKey K key.1 key.2).2
  full key := (requestKey K key.1 key.2).1
  full_injective := requestKey_injective
  retire req := { req with sequenceNumber := 0 }
  blank := .unset K
  keyOf_retire _ := rfl
  keyOf_blank := rfl

/-- **The map the table stands for.** -/
def State.lookup (s : State Bytes32) (key : RequestKey) : Option (Request Bytes32) :=
  (requestScheme K).lookup s.table key

section Link

variable {K} (s : State Bytes32) (provider : Address) (sequenceNumber : ℕ)

omit [DecidableEq Bytes32] in
/-- `findRequest` looks where the scheme does, for every sequence number a request can have. -/
theorem findRequest_eq (nonzero : sequenceNumber ≠ 0) :
    findRequest K s provider sequenceNumber =
      (requestScheme K).find s.table (provider, sequenceNumber) := by
  unfold findRequest SlotTable.Scheme.find
  show (if _ ∧ _ then _ else _) = if Request.key _ = some (provider, sequenceNumber) then _ else _
  simp only [Request.key_eq_some, nonzero, ne_eq, not_false_eq_true, and_true]
  rfl

omit [DecidableEq Bytes32] in
/-- **`findActiveRequest` reads the map.** It reverts with `NoSuchRequest` exactly where the map has
nothing, and otherwise points to the record of the map. -/
theorem findActiveRequest_eq :
    findActiveRequest K s provider sequenceNumber =
      match s.lookup K (provider, sequenceNumber) with
      | some _ => .ok (findRequest K s provider sequenceNumber)
      | none => .error .noSuchRequest := by
  have active : ∀ req : Request Bytes32,
      ((!isActive req) = true ∨ req.provider ≠ provider ∨ req.sequenceNumber ≠ sequenceNumber) ↔
        ¬ req.key = some (provider, sequenceNumber) := by
    intro req
    rw [Request.key_eq_some]
    by_cases zero : req.sequenceNumber = 0
    · simp only [isActive, zero, ne_eq, not_true_eq_false, decide_false, Bool.not_false, true_or,
        true_iff, not_and, not_not]
      exact fun _ same => same.symm
    · simp only [isActive, zero, ne_eq, not_false_eq_true, decide_true, Bool.not_true,
        Bool.false_eq_true, false_or]
      constructor
      · rintro (other | other) ⟨same, same', _⟩
        · exact other same
        · exact other same'
      · intro different
        by_contra both
        simp only [not_or, not_not] at both
        exact different ⟨both.1, both.2, both.2 ▸ zero⟩
  unfold findActiveRequest
  simp only [active]
  by_cases nonzero : sequenceNumber = 0
  · have dead : ∀ req : Request Bytes32, ¬ req.key = some (provider, sequenceNumber) := by
      intro req
      rw [Request.key_eq_some]
      exact fun h => h.2.2 nonzero
    have absent : s.lookup K (provider, sequenceNumber) = none := if_neg (dead _)
    rw [if_pos (dead _), absent]
  · have lookup : s.lookup K (provider, sequenceNumber) =
        if (s.read (findRequest K s provider sequenceNumber)).key = some (provider, sequenceNumber)
        then some (s.read (findRequest K s provider sequenceNumber)) else none := by
      rw [findRequest_eq s provider sequenceNumber nonzero]
      rfl
    rw [lookup]
    by_cases live : (s.read (findRequest K s provider sequenceNumber)).key =
        some (provider, sequenceNumber)
    · rw [if_neg (not_not.mpr live), if_pos live]
    · rw [if_pos live, if_neg live]

/-- `clearRequest` is removal. -/
theorem clearRequest_eq (nonzero : sequenceNumber ≠ 0) :
    clearRequest K s provider sequenceNumber =
      s.setTable ((requestScheme K).remove s.table (provider, sequenceNumber)) := by
  unfold clearRequest SlotTable.Scheme.remove
  show (if _ ∧ _ then _ else _) =
    s.setTable (if Request.key _ = some (provider, sequenceNumber) then _ else _)
  simp only [Request.key_eq_some, nonzero, ne_eq, not_false_eq_true, and_true]
  split
  · next same => exact (congrArg s.setTable (if_pos same)).symm
  · next other => exact (congrArg s.setTable (if_neg other)).symm

/-- Allocating a slot and writing the new record through the pointer is storing. -/
theorem allocRequest_write (req : Request Bytes32) :
    (allocRequest K s provider sequenceNumber).1.write (allocRequest K s provider sequenceNumber).2
        req =
      s.setTable ((requestScheme K).store s.table (provider, sequenceNumber) req) := by
  unfold allocRequest SlotTable.Scheme.store SlotTable.Scheme.spill
  by_cases active : (s.requests (requestKey K provider sequenceNumber).2).sequenceNumber = 0
  · have free : (requestScheme K).keyOf
        (s.table.slots ((requestScheme K).short (provider, sequenceNumber))) = none := if_pos active
    rw [free]
    simp only [isActive, active, ne_eq, not_true_eq_false, decide_false, Bool.false_eq_true,
      if_false]
    rfl
  · have occupied : (requestScheme K).keyOf
        (s.table.slots ((requestScheme K).short (provider, sequenceNumber))) =
          some ((s.requests (requestKey K provider sequenceNumber).2).provider,
            (s.requests (requestKey K provider sequenceNumber).2).sequenceNumber) := if_neg active
    rw [occupied]
    simp only [isActive, active, ne_eq, not_false_eq_true, decide_true, if_true]
    rfl

end Link

end Dice
