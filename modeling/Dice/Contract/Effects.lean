/-
**What each half of a call does.**

The functions are unfolded here and nowhere else. For every function that can succeed there is one
inversion lemma that gives the checks it passed and the world it leaves, and the halves of all calls
are collected in three relations:

* `Finishes` — a call that finishes at once (`start_done`).
* `Calls` — the first half of a call that waits for a message call (`start_calling`).
* `Resumes` — the rest of such a call (`resume_ok`).

Every invariant of the contract is proved by cases on these relations.
-/

import Dice.Contract.Machine
import Dice.Library.HashChain

set_option linter.unusedSectionVars false

namespace Dice

variable {Bytes32 : Type}

/-! ### Inverting checks -/

section Inversion

variable {α β ε : Type}

theorem bind_ok {x : Except ε α} {f : α → Except ε β} {b : β} :
    (x >>= f) = .ok b ↔ ∃ a, x = .ok a ∧ f a = .ok b := by
  cases x with
  | error error =>
    constructor
    · exact fun failed => by cases failed
    · rintro ⟨_, failed, _⟩
      cases failed
  | ok a =>
    constructor
    · exact fun found => ⟨a, rfl, found⟩
    · rintro ⟨_, same, found⟩
      cases same
      exact found

theorem bind_error {x : Except ε α} {f : α → Except ε β} {e : ε} :
    (x >>= f) = .error e ↔ x = .error e ∨ ∃ a, x = .ok a ∧ f a = .error e := by
  cases x with
  | error error =>
    constructor
    · exact fun failed => .inl (by cases failed; rfl)
    · rintro (failed | ⟨_, found, _⟩)
      · cases failed
        rfl
      · cases found
  | ok a =>
    constructor
    · exact fun failed => .inr ⟨a, rfl, failed⟩
    · rintro (failed | ⟨_, same, failed⟩)
      · cases failed
      · cases same
        exact failed

theorem pure_ok {a b : α} : (pure a : Except ε α) = .ok b ↔ a = b := by
  constructor
  · exact fun same => by cases same; rfl
  · rintro rfl
    rfl

theorem pure_ne_error {a : α} {e : ε} : (pure a : Except ε α) ≠ .error e :=
  fun failed => by cases failed

theorem map_ok {x : Except ε α} {f : α → β} {b : β} :
    x.map f = .ok b ↔ ∃ a, x = .ok a ∧ f a = b := by
  cases x <;> simp [Except.map]

theorem revertIf_ok {condition : Prop} [Decidable condition] {error : Revert} {u : Unit} :
    revertIf condition error = .ok u ↔ ¬ condition := by
  unfold revertIf
  split <;> simp [*]

theorem require_ok {condition : Prop} [Decidable condition] {reason : String} {u : Unit} :
    require condition reason = .ok u ↔ condition := by
  unfold require
  split <;> simp [*]

theorem checkedAdd_ok {bits a b c : ℕ} :
    checkedAdd bits a b = .ok c ↔ a + b < 2 ^ bits ∧ a + b = c := by
  unfold checkedAdd
  split <;> simp [*]

theorem checkedSub_ok {a b c : ℕ} : checkedSub a b = .ok c ↔ b ≤ a ∧ a - b = c := by
  unfold checkedSub
  split <;> simp [*]

theorem toUint_ok {bits a b : ℕ} : toUint bits a = .ok b ↔ a < 2 ^ bits ∧ a = b := by
  unfold toUint
  split <;> simp [*]

theorem revertIf_error {condition : Prop} [Decidable condition] {error e : Revert} :
    revertIf condition error = .error e ↔ condition ∧ error = e := by
  unfold revertIf
  split <;> simp [*]

theorem checkedAdd_error {bits a b : ℕ} {e : Revert} (failed : checkedAdd bits a b = .error e) :
    e = .arithmeticPanic := by
  unfold checkedAdd at failed
  split at failed <;> cases failed
  rfl

theorem checkedSub_error {a b : ℕ} {e : Revert} (failed : checkedSub a b = .error e) :
    e = .arithmeticPanic := by
  unfold checkedSub at failed
  split at failed <;> cases failed
  rfl

theorem toUint_error {bits a : ℕ} {e : Revert} (failed : toUint bits a = .error e) :
    e = .safeCastOverflow := by
  unfold toUint at failed
  split at failed <;> cases failed
  rfl

theorem atomically_done {result : Except Revert (World Bytes32)} {w : World Bytes32} :
    atomically result = .done w ↔ result = .ok w := by
  cases result <;> simp [atomically]

theorem atomically_calling {result : Except Revert (World Bytes32)} {w : World Bytes32}
    {pending : Pending Bytes32} : atomically result ≠ .calling w pending := by
  cases result <;> simp [atomically]

end Inversion

variable (K : Keccak Bytes32)

/-- The hash function that hash chains are made with. -/
def chainHash (value : Bytes32) : Bytes32 := K.keccak256 [value]

theorem chainHash_injective {K : Keccak Bytes32} (injective : Function.Injective K.keccak256) :
    Function.Injective (chainHash K) := by
  intro first second same
  have words := injective same
  injection words

/-- The loop of `constructProviderCommitment` iterates the chain's hash. -/
theorem constructProviderCommitment_eq (numHashes : ℕ) (revelation : Bytes32) :
    constructProviderCommitment K numHashes revelation = (chainHash K)^[numHashes] revelation := by
  induction numHashes generalizing revelation with
  | zero => rfl
  | succ numHashes ih =>
    rw [Function.iterate_succ_apply, ← ih]
    rfl

/-! ### The states that functions leave -/

section Effects

/-- What `registerFor` writes to the provider's record. -/
def ProviderInfo.rotated (p : ProviderInfo Bytes32) (commitment : Bytes32)
    (commitmentMetadata : Bytes) (chainLength : ℕ) (uri : Bytes) : ProviderInfo Bytes32 :=
  { p with
    feeInWei := 0
    originalCommitment := commitment
    originalCommitmentSequenceNumber := p.sequenceNumber
    currentCommitment := commitment
    currentCommitmentSequenceNumber := p.sequenceNumber
    commitmentMetadata
    endSequenceNumber := p.sequenceNumber + chainLength
    uri
    sequenceNumber := p.sequenceNumber + 1 }

/-- What an accepted reveal of request `sequenceNumber` writes to the provider's record. -/
def ProviderInfo.revealedAt (p : ProviderInfo Bytes32) (sequenceNumber : ℕ) (value : Bytes32) :
    ProviderInfo Bytes32 :=
  if p.currentCommitmentSequenceNumber < sequenceNumber then
    { p with currentCommitmentSequenceNumber := sequenceNumber, currentCommitment := value }
  else p

/-- What `advanceProviderCommitment` writes to the provider's record. -/
def ProviderInfo.advancedTo (p : ProviderInfo Bytes32) (sequenceNumber : ℕ) (value : Bytes32) :
    ProviderInfo Bytes32 :=
  { p with
    currentCommitmentSequenceNumber := sequenceNumber
    currentCommitment := value
    sequenceNumber := max p.sequenceNumber (sequenceNumber + 1) }

/-- Two provider records that differ at most in what providers configure themselves. -/
structure ProviderInfo.SameChain (p q : ProviderInfo Bytes32) : Prop where
  original : p.originalCommitment = q.originalCommitment
  originalSequenceNumber :
    p.originalCommitmentSequenceNumber = q.originalCommitmentSequenceNumber
  endSequenceNumber : p.endSequenceNumber = q.endSequenceNumber
  sequenceNumber : p.sequenceNumber = q.sequenceNumber
  current : p.currentCommitment = q.currentCommitment
  currentSequenceNumber : p.currentCommitmentSequenceNumber = q.currentCommitmentSequenceNumber

/-- The record that `requestHelper` stores for a request with callback. -/
def madeRequest (w : World Bytes32) (msg : Msg) (provider : Address) (userRandomNumber : Bytes32)
    (gasLimit10k : ℕ) : Request Bytes32 where
  provider
  sequenceNumber := (w.state.providers provider).sequenceNumber
  numHashes := (w.state.providers provider).sequenceNumber -
    (w.state.providers provider).currentCommitmentSequenceNumber
  commitment := K.keccak256 [constructUserCommitment K userRandomNumber,
    (w.state.providers provider).currentCommitment]
  blockNumber := w.blockNumber
  requester := msg.sender
  useBlockhash := false
  callbackStatus := .notStarted
  gasLimit10k
  feePaid := w.state.feeInWei

/-- A provider with its sequence number counted up. -/
def ProviderInfo.counted (p : ProviderInfo Bytes32) : ProviderInfo Bytes32 :=
  { p with sequenceNumber := p.sequenceNumber + 1 }

def State.accrue (s : State Bytes32) (amount : ℕ) : State Bytes32 :=
  { s with accruedFeesInWei := s.accruedFeesInWei + amount }

def State.release (s : State Bytes32) (amount : ℕ) : State Bytes32 :=
  { s with accruedFeesInWei := s.accruedFeesInWei - amount }

variable [DecidableEq Bytes32]

/-- The world after `registerFor`. -/
def World.rotated (w : World Bytes32) (provider : Address) (commitment : Bytes32)
    (commitmentMetadata : Bytes) (chainLength : ℕ) (uri : Bytes) : World Bytes32 :=
  ((w.setState (w.state.setProvider provider ((w.state.providers provider).rotated commitment
      commitmentMetadata chainLength uri))).record
    (.registered provider (w.state.providers provider).sequenceNumber commitment)).emit
    (.registered provider)

/-- The world after `requestV2`. -/
def World.requested (w : World Bytes32) (msg : Msg) (provider : Address)
    (userRandomNumber : Bytes32) (gasLimit10k : ℕ) : World Bytes32 :=
  let p := w.state.providers provider
  (((w.setState (((w.state.setProvider provider p.counted).accrue w.state.feeInWei).setTable
      ((requestScheme K).store w.state.table (provider, p.sequenceNumber)
        (madeRequest K w msg provider userRandomNumber gasLimit10k)))).receive msg.value).record
    (.paid msg.sender msg.value)).emit
    (.requested provider msg.sender p.sequenceNumber userRandomNumber (gasLimit10k * tenThousand))

/-- The world after `revealHelper` accepted a reveal of a request. -/
def World.accepted (w : World Bytes32) (provider : Address) (sequenceNumber : ℕ) (value : Bytes32) :
    World Bytes32 :=
  (w.setState (w.state.setProvider provider
    ((w.state.providers provider).revealedAt sequenceNumber value))).record
    (.revealed provider sequenceNumber value)

/-- The world after `advanceProviderCommitment`. -/
def World.advanced (w : World Bytes32) (provider : Address) (sequenceNumber : ℕ) (value : Bytes32) :
    World Bytes32 :=
  (w.setState (w.state.setProvider provider
    ((w.state.providers provider).advancedTo sequenceNumber value))).record
    (.advanced provider sequenceNumber value)

/-- The world after a request was removed from the table. -/
def World.cleared (w : World Bytes32) (provider : Address) (sequenceNumber : ℕ) : World Bytes32 :=
  w.setState (w.state.setTable
    ((requestScheme K).remove w.state.table (provider, sequenceNumber)))

/-- The world in which the fee of a request is sent back to its requester. -/
def World.refunding (w : World Bytes32) (provider : Address) (sequenceNumber : ℕ)
    (req : Request Bytes32) : World Bytes32 :=
  (((w.cleared K provider sequenceNumber).setState
    ((w.cleared K provider sequenceNumber).state.release req.feePaid)).send req.feePaid).record
      (.refunded provider sequenceNumber req.requester req.feePaid)

end Effects

/-! ### The checks that functions pass -/

section Checks

variable [DecidableEq Bytes32] (w : World Bytes32) (msg : Msg) (provider : Address)

structure RegisterChecks (chainLength : ℕ) : Prop where
  admin : msg.sender = w.state.admin
  nonempty : chainLength ≠ 0
  provider_ne_zero : provider ≠ 0
  settled : (w.state.providers provider).sequenceNumber ≠ 0 →
    (w.state.providers provider).sequenceNumber - 1 ≤
      (w.state.providers provider).currentCommitmentSequenceNumber
  fits : (w.state.providers provider).sequenceNumber + chainLength < 2 ^ 64

structure RequestChecks (gasLimit gasLimit10k : ℕ) : Prop where
  registered : (w.state.providers provider).sequenceNumber ≠ 0
  left : (w.state.providers provider).sequenceNumber <
    (w.state.providers provider).endSequenceNumber
  paid : msg.value = w.state.feeInWei
  fits : w.state.accruedFeesInWei + w.state.feeInWei < 2 ^ 128
  ordered : (w.state.providers provider).currentCommitmentSequenceNumber ≤
    (w.state.providers provider).sequenceNumber
  distance : (w.state.providers provider).sequenceNumber -
    (w.state.providers provider).currentCommitmentSequenceNumber < 2 ^ 32
  recent : (w.state.providers provider).maxNumHashes = 0 ∨
    (w.state.providers provider).sequenceNumber -
      (w.state.providers provider).currentCommitmentSequenceNumber ≤
        (w.state.providers provider).maxNumHashes
  gas : requestGasLimit10k (w.state.providers provider) gasLimit = .ok gasLimit10k

/-- The checks of `revealHelper` on the active request `req`. -/
structure RevealChecks (sequenceNumber : ℕ) (userContribution providerContribution : Bytes32)
    (req : Request Bytes32) : Prop where
  found : w.state.lookup K (provider, sequenceNumber) = some req
  opens : K.keccak256 [constructUserCommitment K userContribution,
    (chainHash K)^[req.numHashes] providerContribution] = req.commitment
  available : req.useBlockhash = true → w.blockhash req.blockNumber ≠ K.word 0

structure RefundChecks (sequenceNumber : ℕ) (req : Request Bytes32) : Prop where
  found : w.state.lookup K (provider, sequenceNumber) = some req
  requester : req.requester = msg.sender
  due : req.blockNumber + w.state.refundDelayBlocks ≤ w.blockNumber

structure AdvanceChecks (advancedSequenceNumber : ℕ) (providerRevelation : Bytes32) : Prop where
  newer : (w.state.providers provider).currentCommitmentSequenceNumber < advancedSequenceNumber
  inside : advancedSequenceNumber < (w.state.providers provider).endSequenceNumber
  distance : advancedSequenceNumber -
    (w.state.providers provider).currentCommitmentSequenceNumber < 2 ^ 32
  opens : (chainHash K)^[advancedSequenceNumber -
      (w.state.providers provider).currentCommitmentSequenceNumber] providerRevelation =
    (w.state.providers provider).currentCommitment

end Checks

/-- The random number that a reveal of `req` yields. -/
def revealedNumber (w : World Bytes32) (req : Request Bytes32)
    (userContribution providerContribution : Bytes32) : Bytes32 :=
  combineRandomValues K userContribution providerContribution
    (if req.useBlockhash then w.blockhash req.blockNumber else K.word 0)

/-! ### Inversions -/

section Functions

variable [DecidableEq Bytes32] {K} {w : World Bytes32} {msg : Msg} {provider : Address}

/-- The request that a reveal has found is the active one. -/
theorem RevealChecks.req_eq {n : ℕ} {u v : Bytes32} {req req' : Request Bytes32}
    (checks : RevealChecks K w provider n u v req)
    (found : w.state.lookup K (provider, n) = some req') : req = req' :=
  Option.some.inj (checks.found.symm.trans found)

theorem registerFor_ok {feeInWei chainLength : ℕ} {commitment : Bytes32}
    {commitmentMetadata uri : Bytes} {w' : World Bytes32}
    (ok : registerFor w msg provider feeInWei commitment commitmentMetadata chainLength uri =
      .ok w') :
    RegisterChecks w msg provider chainLength ∧
      w' = w.rotated provider commitment commitmentMetadata chainLength uri := by
  simp only [registerFor, bind_ok, pure_ok, revertIf_ok, require_ok, checkedAdd_ok, exists_const,
    not_not] at ok
  obtain ⟨admin, nonempty, nonzero, settled, _, ⟨fits, rfl⟩, _, ⟨_, rfl⟩, rfl⟩ := ok
  exact ⟨⟨admin, nonempty, nonzero, settled, fits⟩, rfl⟩

theorem withdrawFees_ok {amount : ℕ} {w' : World Bytes32} (ok : withdrawFees w msg amount = .ok w') :
    msg.sender = w.state.admin ∧ amount ≤ w.state.accruedFeesInWei ∧ amount ≤ w.balance ∧
      w' = ((w.setState (w.state.release amount)).send amount).record
        (.withdrawn msg.sender w.state.vault amount) := by
  simp only [withdrawFees, bind_ok, pure_ok, require_ok, exists_const] at ok
  obtain ⟨admin, enough, funded, rfl⟩ := ok
  exact ⟨admin, enough, funded, rfl⟩

/-- The state and the pointer that `requestHelper` returns for a request with callback. -/
theorem requestHelper_ok {userRandomNumber : Bytes32} {gasLimit : ℕ} {s : State Bytes32}
    {ref : RequestRef Bytes32}
    (ok : requestHelper K w msg provider (constructUserCommitment K userRandomNumber) false true
      gasLimit = .ok (s, ref)) :
    ∃ gasLimit10k, RequestChecks w msg provider gasLimit gasLimit10k ∧
      s = ((w.state.setProvider provider (w.state.providers provider).counted).accrue
          w.state.feeInWei).setTable
        ((requestScheme K).store w.state.table
          (provider, (w.state.providers provider).sequenceNumber)
          (madeRequest K w msg provider userRandomNumber gasLimit10k)) ∧
      s.read ref = madeRequest K w msg provider userRandomNumber gasLimit10k := by
  simp only [requestHelper, bind_ok, pure_ok, revertIf_ok, checkedAdd_ok, checkedSub_ok, toUint_ok,
    Prod.mk.injEq, exists_const, if_true] at ok
  obtain ⟨registered, left, _, ⟨_, rfl⟩, paid, _, ⟨fits, rfl⟩, _, ⟨ordered, rfl⟩, _,
    ⟨distance, rfl⟩, recent, _, ⟨_, rfl⟩, gasLimit10k, gas, rfl, rfl⟩ := ok
  refine ⟨gasLimit10k, ⟨registered, by omega, not_not.mp paid, fits, ordered, distance, ?_, gas⟩,
    ?_, ?_⟩
  · rw [not_and_or, not_not] at recent
    exact recent.imp_right Nat.le_of_not_lt
  · exact allocRequest_write _ provider _ _
  · exact SlotTable.Table.read_write_self _ _ _

theorem requestV2_ok {userRandomNumber : Bytes32} {gasLimit n : ℕ} {w' : World Bytes32}
    (ok : requestV2 K w msg provider userRandomNumber gasLimit = .ok (w', n)) :
    ∃ gasLimit10k, RequestChecks w msg provider gasLimit gasLimit10k ∧
      n = (w.state.providers provider).sequenceNumber ∧
      w' = w.requested K msg provider userRandomNumber gasLimit10k := by
  simp only [requestV2, bind_ok, pure_ok, Prod.exists, Prod.mk.injEq] at ok
  obtain ⟨s, ref, helper, rfl, rfl⟩ := ok
  obtain ⟨gasLimit10k, checks, rfl, read⟩ := requestHelper_ok helper
  refine ⟨gasLimit10k, checks, ?_, ?_⟩
  · rw [read]
    rfl
  · rw [read]
    rfl

theorem nonzero_of_found {s : State Bytes32} {sequenceNumber : ℕ} {req : Request Bytes32}
    (found : s.lookup K (provider, sequenceNumber) = some req) : sequenceNumber ≠ 0 :=
  (Request.key_eq_some.mp (SlotTable.Scheme.lookup_key found)).2.2

/-- The pointer of an active request reads its record. -/
theorem read_findRequest {s : State Bytes32} {sequenceNumber : ℕ} {req : Request Bytes32}
    (found : s.lookup K (provider, sequenceNumber) = some req) :
    s.read (findRequest K s provider sequenceNumber) = req := by
  rw [findRequest_eq s provider sequenceNumber (nonzero_of_found found)]
  exact SlotTable.Scheme.lookup_read found

theorem findActiveRequest_ok {s : State Bytes32} {sequenceNumber : ℕ} {ref : RequestRef Bytes32}
    (ok : findActiveRequest K s provider sequenceNumber = .ok ref) :
    ref = findRequest K s provider sequenceNumber ∧
      s.lookup K (provider, sequenceNumber) = some (s.read ref) := by
  rw [findActiveRequest_eq] at ok
  cases found : s.lookup K (provider, sequenceNumber) with
  | none =>
    rw [found] at ok
    cases ok
  | some req =>
    rw [found] at ok
    cases ok
    exact ⟨rfl, by rw [read_findRequest found]⟩

theorem revealHelper_ok {ref : RequestRef Bytes32} {sequenceNumber : ℕ}
    {userContribution providerContribution randomNumber blockHash : Bytes32} {w' : World Bytes32}
    (found : w.state.lookup K (provider, sequenceNumber) = some (w.state.read ref))
    (ok : revealHelper K w ref userContribution providerContribution =
      .ok (w', randomNumber, blockHash)) :
    RevealChecks K w provider sequenceNumber userContribution providerContribution
        (w.state.read ref) ∧
      w' = w.accepted provider sequenceNumber providerContribution ∧
      randomNumber =
        revealedNumber K w (w.state.read ref) userContribution providerContribution := by
  obtain ⟨sameProvider, sameNumber, _⟩ :=
    Request.key_eq_some.mp (SlotTable.Scheme.lookup_key found)
  simp only [revealHelper, bind_ok, pure_ok, revertIf_ok, exists_const, Prod.mk.injEq, not_not,
    constructProviderCommitment_eq] at ok
  obtain ⟨opens, available, rfl, rfl, _⟩ := ok
  refine ⟨⟨found, opens, fun uses zero => available ⟨uses, by rw [if_pos uses]; exact zero⟩⟩, ?_,
    rfl⟩
  rw [sameProvider, sameNumber]
  unfold World.accepted ProviderInfo.revealedAt
  split
  · rfl
  · rw [State.setProvider_self]

/-- Clearing an active request of the world. -/
theorem setState_clearRequest {sequenceNumber : ℕ} (nonzero : sequenceNumber ≠ 0) :
    w.setState (clearRequest K w.state provider sequenceNumber) =
      w.cleared K provider sequenceNumber := by
  rw [clearRequest_eq _ _ _ nonzero]
  rfl

theorem reveal_ok {sequenceNumber : ℕ} {userContribution providerContribution randomNumber : Bytes32}
    {w' : World Bytes32}
    (ok : reveal K w msg provider sequenceNumber userContribution providerContribution =
      .ok (w', randomNumber)) :
    ∃ req, RevealChecks K w provider sequenceNumber userContribution providerContribution req ∧
      req.callbackStatus = .notNecessary ∧ req.requester = msg.sender ∧
      randomNumber = revealedNumber K w req userContribution providerContribution ∧
      w' = ((w.accepted provider sequenceNumber providerContribution).emit
        (.revealed provider req.requester sequenceNumber randomNumber userContribution
          providerContribution false [] 0)).cleared K provider sequenceNumber := by
  simp only [reveal, bind_ok, pure_ok, revertIf_ok, exists_const, Prod.exists, Prod.mk.injEq,
    not_not] at ok
  obtain ⟨ref, found, status, requester, w₁, _, _, helper, rfl, rfl⟩ := ok
  obtain ⟨rfl, found⟩ := findActiveRequest_ok found
  obtain ⟨checks, rfl, rfl⟩ := revealHelper_ok found helper
  refine ⟨_, checks, status, requester, rfl, ?_⟩
  exact setState_clearRequest (nonzero_of_found found)

theorem revealWithCallbackChecks_ok {sequenceNumber : ℕ}
    {userContribution providerContribution randomNumber : Bytes32} {ref : RequestRef Bytes32}
    {w' : World Bytes32}
    (ok : revealWithCallbackChecks K w provider sequenceNumber userContribution
      providerContribution = .ok (w', ref, randomNumber)) :
    ∃ req, RevealChecks K w provider sequenceNumber userContribution providerContribution req ∧
      (req.callbackStatus = .notStarted ∨ req.callbackStatus = .failed) ∧
      w.state.read ref = req ∧ ref = findRequest K w.state provider sequenceNumber ∧
      randomNumber = revealedNumber K w req userContribution providerContribution ∧
      w' = w.accepted provider sequenceNumber providerContribution := by
  simp only [revealWithCallbackChecks, bind_ok, pure_ok, revertIf_ok, exists_const, Prod.exists,
    Prod.mk.injEq, not_not] at ok
  obtain ⟨_, found, status, w₁, _, _, helper, rfl, rfl, rfl⟩ := ok
  obtain ⟨rfl, found⟩ := findActiveRequest_ok found
  obtain ⟨checks, rfl, rfl⟩ := revealHelper_ok found helper
  exact ⟨_, checks, status, rfl, rfl, rfl, rfl⟩

theorem refundRequestChecks_ok {sequenceNumber amount : ℕ} {requester : Address}
    {w' : World Bytes32}
    (ok : refundRequestChecks K w msg provider sequenceNumber = .ok (w', requester, amount)) :
    ∃ req, RefundChecks K w msg provider sequenceNumber req ∧ requester = req.requester ∧
      amount = req.feePaid ∧ w' = w.cleared K provider sequenceNumber := by
  simp only [refundRequestChecks, bind_ok, pure_ok, revertIf_ok, exists_const, Prod.mk.injEq,
    not_not, Nat.not_lt] at ok
  obtain ⟨_, found, requester, due, rfl, rfl, rfl⟩ := ok
  obtain ⟨rfl, found⟩ := findActiveRequest_ok found
  exact ⟨_, ⟨found, requester, due⟩, rfl, rfl, setState_clearRequest (nonzero_of_found found)⟩

theorem refundTransfer_ok {sequenceNumber amount : ℕ} {requester : Address} {w' : World Bytes32}
    (ok : refundTransfer w provider sequenceNumber requester amount = .ok w') :
    amount ≤ w.state.accruedFeesInWei ∧ amount ≤ w.balance ∧
      w' = ((w.setState (w.state.release amount)).send amount).record
        (.refunded provider sequenceNumber requester amount) := by
  simp only [refundTransfer, bind_ok, pure_ok, require_ok, exists_const] at ok
  obtain ⟨enough, funded, rfl⟩ := ok
  exact ⟨enough, funded, rfl⟩

theorem advanceProviderCommitment_ok {advancedSequenceNumber : ℕ} {providerRevelation : Bytes32}
    {w' : World Bytes32}
    (ok : advanceProviderCommitment K w provider advancedSequenceNumber providerRevelation =
      .ok w') :
    AdvanceChecks K w provider advancedSequenceNumber providerRevelation ∧
      w' = w.advanced provider advancedSequenceNumber providerRevelation := by
  simp only [advanceProviderCommitment, bind_ok, pure_ok, revertIf_ok, toUint_ok, exists_const,
    not_not, constructProviderCommitment_eq] at ok
  obtain ⟨newer, inside, _, ⟨distance, rfl⟩, opens, bumped, bump, rfl⟩ := ok
  refine ⟨⟨by omega, by omega, distance, opens⟩, ?_⟩
  have bumped_eq : bumped =
      max (w.state.providers provider).sequenceNumber (advancedSequenceNumber + 1) := by
    unfold bumpedSequenceNumber at bump
    split at bump
    · obtain ⟨_, rfl⟩ := checkedAdd_ok.mp bump
      omega
    · cases bump
      omega
  rw [bumped_eq]
  rfl

theorem gasUsed_ok {startingGas gasLeft gasUsed : ℕ}
    (ok : (do toUint 32 (← checkedSub startingGas gasLeft) : Except Revert ℕ) = .ok gasUsed) :
    gasLeft ≤ startingGas ∧ startingGas - gasLeft < 2 ^ 32 ∧ gasUsed = startingGas - gasLeft := by
  simp only [bind_ok, checkedSub_ok, toUint_ok] at ok
  obtain ⟨_, ⟨spent, rfl⟩, fits, rfl⟩ := ok
  exact ⟨spent, fits, rfl⟩

end Functions

/-! ### Calls that finish at once -/

section Halves

variable [DecidableEq Bytes32]

/-- What providers change about themselves. -/
inductive Configures (m : Message Bytes32) (p : ProviderInfo Bytes32) :
    ProviderInfo Bytes32 → Event Bytes32 → Prop
  | uri {newUri : Bytes} : m.call = .setProviderUri newUri →
      Configures m p { p with uri := newUri } (.providerUriUpdated m.msg.sender p.uri newUri)
  | maxNumHashes {maxNumHashes : ℕ} : m.call = .setMaxNumHashes maxNumHashes →
      Configures m p { p with maxNumHashes }
        (.providerMaxNumHashesAdvanced m.msg.sender p.maxNumHashes maxNumHashes)
  | defaultGasLimit {gasLimit gas10k : ℕ} : m.call = .setDefaultGasLimit gasLimit →
      roundTo10kGas gasLimit = .ok gas10k →
      Configures m p { p with defaultGasLimit := gasLimit }
        (.providerDefaultGasLimitUpdated m.msg.sender p.defaultGasLimit gasLimit)

/-- What the admin functions change. -/
inductive Administers (m : Message Bytes32) (s : State Bytes32) : State Bytes32 → Prop
  | proposed {newAdmin : Address} : m.call = .proposeAdmin newAdmin → m.msg.sender = s.admin →
      newAdmin ≠ 0 → Administers m s { s with proposedAdmin := newAdmin }
  | accepted : m.call = .acceptAdmin → m.msg.sender = s.proposedAdmin →
      Administers m s { s with admin := s.proposedAdmin, proposedAdmin := 0 }
  | defaultProvider {provider : Address} : m.call = .setDefaultProvider provider →
      m.msg.sender = s.admin → Administers m s { s with defaultProvider := provider }
  | fee {feeInWei : ℕ} : m.call = .setFee feeInWei → m.msg.sender = s.admin →
      Administers m s { s with feeInWei }

/-- **A call that finishes at once.** -/
inductive Finishes (m : Message Bytes32) (w : World Bytes32) : World Bytes32 → Prop
  | registered {provider : Address} {feeInWei chainLength : ℕ} {commitment : Bytes32}
      {commitmentMetadata uri : Bytes} :
      m.call = .registerFor provider feeInWei commitment commitmentMetadata chainLength uri →
      RegisterChecks w m.msg provider chainLength →
      Finishes m w (w.rotated provider commitment commitmentMetadata chainLength uri)
  | requested {provider : Address} {userRandomNumber : Bytes32} {gasLimit gasLimit10k : ℕ} :
      m.call = .requestV2 provider userRandomNumber gasLimit →
      RequestChecks w m.msg provider gasLimit gasLimit10k →
      Finishes m w (w.requested K m.msg provider userRandomNumber gasLimit10k)
  | revealed {provider : Address} {n : ℕ} {u v : Bytes32} {req : Request Bytes32} :
      m.call = .reveal provider n u v → RevealChecks K w provider n u v req →
      req.callbackStatus = .notNecessary → req.requester = m.msg.sender →
      Finishes m w (((w.accepted provider n v).emit (.revealed provider req.requester n
        (revealedNumber K w req u v) u v false [] 0)).cleared K provider n)
  | noCallback {provider : Address} {n startingGas endingGas : ℕ} {u v : Bytes32}
      {req : Request Bytes32} :
      m.call = .revealWithCallback provider n u v startingGas endingGas 0 →
      RevealChecks K w provider n u v req →
      req.callbackStatus = .notStarted ∧ req.gasLimit10k = 0 ∨ req.callbackStatus = .failed →
      endingGas ≤ startingGas → startingGas - endingGas < 2 ^ 32 →
      Finishes m w (((w.accepted provider n v).cleared K provider n).emit (.revealed provider
        req.requester n (revealedNumber K w req u v) u v false [] (startingGas - endingGas)))
  | refundedNothing {provider : Address} {n : ℕ} {req : Request Bytes32} :
      m.call = .refundRequest provider n → RefundChecks K w m.msg provider n req →
      req.feePaid = 0 →
      Finishes m w ((w.cleared K provider n).emit (.requestRefunded provider req.requester n 0))
  | advanced {provider : Address} {n : ℕ} {v : Bytes32} :
      m.call = .advanceProviderCommitment provider n v → AdvanceChecks K w provider n v →
      Finishes m w (w.advanced provider n v)
  | configured {p : ProviderInfo Bytes32} {event : Event Bytes32} :
      (w.state.providers m.msg.sender).sequenceNumber ≠ 0 →
      Configures m (w.state.providers m.msg.sender) p event →
      Finishes m w ((w.setState (w.state.setProvider m.msg.sender p)).emit event)
  | administered {s : State Bytes32} : Administers m w.state s → Finishes m w (w.setState s)
  | forced {amount : ℕ} : m.call = .forceEther amount →
      Finishes m w ((w.receive amount).record (.forced amount))

/-- **The first half of a call that makes a message call.** -/
inductive Calls (m : Message Bytes32) (w : World Bytes32) :
    World Bytes32 → Pending Bytes32 → Prop
  | limited {provider : Address} {n startingGas endingGas len : ℕ} {u v : Bytes32}
      {req : Request Bytes32} :
      m.call = .revealWithCallback provider n u v startingGas endingGas len →
      RevealChecks K w provider n u v req →
      req.callbackStatus = .notStarted → req.gasLimit10k ≠ 0 →
      Calls m w
        (((w.accepted provider n v).setState ((w.accepted provider n v).state.setCallbackStatus
          (findRequest K w.state provider n) .inProgress)).record (.called provider n req.requester
            (forwardedGas startingGas (req.gasLimit10k * tenThousand))))
        (.limited (findRequest K w.state provider n) provider n u v (revealedNumber K w req u v)
          startingGas)
  | unlimited {provider : Address} {n startingGas endingGas len : ℕ} {u v : Bytes32}
      {req : Request Bytes32} :
      m.call = .revealWithCallback provider n u v startingGas endingGas len →
      RevealChecks K w provider n u v req →
      req.callbackStatus = .notStarted ∧ req.gasLimit10k = 0 ∨ req.callbackStatus = .failed →
      len ≠ 0 →
      Calls m w
        (((w.accepted provider n v).cleared K provider n).record (.called provider n req.requester
          (forwardedGas startingGas (startingGas * 15 / 16))))
        (.unlimited req.requester provider n u v (revealedNumber K w req u v) startingGas)
  | refund {provider : Address} {n : ℕ} {req : Request Bytes32} :
      m.call = .refundRequest provider n → RefundChecks K w m.msg provider n req →
      0 < req.feePaid → req.feePaid ≤ w.state.accruedFeesInWei → req.feePaid ≤ w.balance →
      Calls m w (w.refunding K provider n req) (.refund provider req.requester n req.feePaid)
  | withdrawal {amount : ℕ} :
      m.call = .withdrawFees amount → m.msg.sender = w.state.admin →
      amount ≤ w.state.accruedFeesInWei → amount ≤ w.balance →
      Calls m w
        (((w.setState (w.state.release amount)).send amount).record
          (.withdrawn m.msg.sender w.state.vault amount))
        .withdrawal
  | foreign : m.call = .foreign → Calls m w w .foreign

/-- **The rest of such a call.** -/
inductive Resumes (result : CallResult) (w : World Bytes32) :
    Pending Bytes32 → World Bytes32 → Prop
  | limitedDelivered {ref : RequestRef Bytes32} {provider : Address} {n startingGas : ℕ}
      {u v random : Bytes32} :
      result.success = true → result.gasLeft ≤ startingGas →
      startingGas - result.gasLeft < 2 ^ 32 →
      Resumes result w (.limited ref provider n u v random startingGas)
        ((((w.setState (w.state.setCallbackStatus ref .notStarted)).record
          (.delivered provider n)).emit (.revealed provider (w.state.read ref).requester n random u
            v false (result.returnData.take 256) (startingGas - result.gasLeft))).cleared K
              provider n)
  | limitedFailed {ref : RequestRef Bytes32} {provider : Address} {n startingGas : ℕ}
      {u v random : Bytes32} :
      result.success = false → result.gasLeft ≤ startingGas →
      startingGas - result.gasLeft < 2 ^ 32 →
      (w.state.read ref).gasLimit10k * tenThousand < startingGas * 31 / 32 →
      Resumes result w (.limited ref provider n u v random startingGas)
        ((w.setState (w.state.setCallbackStatus ref .failed)).emit (.revealed provider
          (w.state.read ref).requester n random u v true (result.returnData.take 256)
            (startingGas - result.gasLeft)))
  | unlimitedDelivered {callAddress provider : Address} {n startingGas : ℕ}
      {u v random : Bytes32} :
      result.success = true → result.gasLeft ≤ startingGas →
      startingGas - result.gasLeft < 2 ^ 32 →
      Resumes result w (.unlimited callAddress provider n u v random startingGas)
        ((w.record (.delivered provider n)).emit (.revealed provider callAddress n random u v false
          [] (startingGas - result.gasLeft)))
  | unlimitedFailed {callAddress provider : Address} {n startingGas : ℕ} {u v random : Bytes32} :
      result.success = false → result.gasLeft ≤ startingGas →
      startingGas - result.gasLeft < 2 ^ 32 →
      Resumes result w (.unlimited callAddress provider n u v random startingGas)
        (w.emit (.revealed provider callAddress n random u v true [] (startingGas - result.gasLeft)))
  | refund {provider requester : Address} {n amount : ℕ} : result.success = true →
      Resumes result w (.refund provider requester n amount)
        (w.emit (.requestRefunded provider requester n amount))
  | withdrawal : result.success = true → Resumes result w .withdrawal w
  | foreign : result.success = true → Resumes result w .foreign w

variable {K} {m : Message Bytes32} {w : World Bytes32}

/-- `revealWithCallback` branches on whether this is the first attempt of a request with a gas
limit. -/
theorem otherBranch {req : Request Bytes32}
    (status : req.callbackStatus = .notStarted ∨ req.callbackStatus = .failed)
    (other : ¬ (req.gasLimit10k ≠ 0 ∧ req.callbackStatus = .notStarted)) :
    req.callbackStatus = .notStarted ∧ req.gasLimit10k = 0 ∨ req.callbackStatus = .failed := by
  rcases status with first | retry
  · exact .inl ⟨first, not_not.mp fun limited => other ⟨limited, first⟩⟩
  · exact .inr retry

theorem revealWithCallback_done {provider : Address} {n startingGas endingGas len : ℕ}
    {u v : Bytes32} {w' : World Bytes32}
    (call : m.call = .revealWithCallback provider n u v startingGas endingGas len)
    (done : revealWithCallback K w provider n u v startingGas endingGas len = .done w') :
    Finishes K m w w' := by
  unfold revealWithCallback at done
  split at done
  · cases done
  · next w₁ ref random checked =>
    obtain ⟨req, checks, status, read, rfl, rfl, rfl⟩ := revealWithCallbackChecks_ok checked
    have read₁ : (w.accepted provider n v).state.read (findRequest K w.state provider n) = req :=
      read
    simp only [read₁] at done
    split at done
    · cases done
    · next other =>
      split at done
      · cases done
      · next noCode =>
        split at done
        · cases done
        · next gasUsed spent =>
          obtain ⟨less, fits, rfl⟩ := gasUsed_ok spent
          cases done
          rw [setState_clearRequest (nonzero_of_found checks.found)]
          rw [not_not.mp noCode] at call
          exact .noCallback call checks (otherBranch status other) less fits

theorem revealWithCallback_calling {provider : Address} {n startingGas endingGas len : ℕ}
    {u v : Bytes32} {w' : World Bytes32} {pending : Pending Bytes32}
    (call : m.call = .revealWithCallback provider n u v startingGas endingGas len)
    (calling : revealWithCallback K w provider n u v startingGas endingGas len =
      .calling w' pending) :
    Calls K m w w' pending := by
  unfold revealWithCallback at calling
  split at calling
  · cases calling
  · next w₁ ref random checked =>
    obtain ⟨req, checks, status, read, rfl, rfl, rfl⟩ := revealWithCallbackChecks_ok checked
    have read₁ : (w.accepted provider n v).state.read (findRequest K w.state provider n) = req :=
      read
    simp only [read₁] at calling
    split at calling
    · next limited =>
      cases calling
      exact .limited call checks limited.2 limited.1
    · next other =>
      split at calling
      · next code =>
        cases calling
        rw [setState_clearRequest (nonzero_of_found checks.found)]
        exact .unlimited call checks (otherBranch status other) code
      · split at calling <;> cases calling

theorem refundRequest_done {provider : Address} {n : ℕ} {w' : World Bytes32}
    (call : m.call = .refundRequest provider n)
    (done : refundRequest K w m.msg provider n = .done w') : Finishes K m w w' := by
  unfold refundRequest at done
  split at done
  · cases done
  · next w₁ requester amount checked =>
    obtain ⟨req, checks, rfl, rfl, rfl⟩ := refundRequestChecks_ok checked
    split at done
    · split at done <;> cases done
    · next nothing =>
      have zero : req.feePaid = 0 := by omega
      cases done
      rw [zero]
      exact .refundedNothing call checks zero

theorem refundRequest_calling {provider : Address} {n : ℕ} {w' : World Bytes32}
    {pending : Pending Bytes32} (call : m.call = .refundRequest provider n)
    (calling : refundRequest K w m.msg provider n = .calling w' pending) :
    Calls K m w w' pending := by
  unfold refundRequest at calling
  split at calling
  · cases calling
  · next w₁ requester amount checked =>
    obtain ⟨req, checks, rfl, rfl, rfl⟩ := refundRequestChecks_ok checked
    split at calling
    · next positive =>
      split at calling
      · cases calling
      · next w₂ sent =>
        obtain ⟨enough, funded, rfl⟩ := refundTransfer_ok sent
        cases calling
        exact .refund call checks positive enough funded
    · cases calling

/-- The functions by which providers configure themselves. -/
theorem configure_done {w' : World Bytes32} {p : ProviderInfo Bytes32} {event : Event Bytes32}
    (registered : ¬ (w.state.providers m.msg.sender).sequenceNumber = 0)
    (configures : Configures m (w.state.providers m.msg.sender) p event)
    (same : (w.setState (w.state.setProvider m.msg.sender p)).emit event = w') :
    Finishes K m w w' :=
  same ▸ .configured registered configures

/-- **Every call that finishes at once.** -/
theorem start_done {w' : World Bytes32} (started : start K m w = .done w') :
    Finishes K m w w' := by
  obtain ⟨msg, call⟩ := m
  unfold start at started
  split at started
  · cases started
  · cases call with
    | registerFor provider feeInWei commitment commitmentMetadata chainLength uri =>
      obtain ⟨checks, rfl⟩ := registerFor_ok (atomically_done.mp started)
      exact .registered rfl checks
    | withdrawFees amount => simp only at started; split at started <;> cases started
    | requestV2Disabled => cases started
    | requestV2 provider userRandomNumber gasLimit =>
      obtain ⟨⟨_, n⟩, requested, rfl⟩ := map_ok.mp (atomically_done.mp started)
      obtain ⟨gasLimit10k, checks, _, rfl⟩ := requestV2_ok requested
      exact .requested rfl checks
    | reveal provider n u v =>
      obtain ⟨⟨_, random⟩, revealed, rfl⟩ := map_ok.mp (atomically_done.mp started)
      obtain ⟨req, checks, status, requester, rfl, rfl⟩ := reveal_ok revealed
      exact .revealed rfl checks status requester
    | revealWithCallback provider n u v startingGas endingGas len =>
      exact revealWithCallback_done rfl started
    | refundRequest provider n => exact refundRequest_done rfl started
    | advanceProviderCommitment provider n v =>
      obtain ⟨checks, rfl⟩ := advanceProviderCommitment_ok (atomically_done.mp started)
      exact .advanced rfl checks
    | feeModelDisabled => cases started
    | setProviderUri newUri =>
      have ok := atomically_done.mp started
      simp only [setProviderUri, bind_ok, pure_ok, revertIf_ok, exists_const] at ok
      exact configure_done ok.1 (.uri rfl) ok.2
    | setMaxNumHashes maxNumHashes =>
      have ok := atomically_done.mp started
      simp only [setMaxNumHashes, bind_ok, pure_ok, revertIf_ok, exists_const] at ok
      exact configure_done ok.1 (.maxNumHashes rfl) ok.2
    | setDefaultGasLimit gasLimit =>
      have ok := atomically_done.mp started
      simp only [setDefaultGasLimit, bind_ok, pure_ok, revertIf_ok, exists_const] at ok
      obtain ⟨registered, gas10k, rounded, same⟩ := ok
      exact configure_done registered (.defaultGasLimit rfl rounded) same
    | proposeAdmin newAdmin =>
      have ok := atomically_done.mp started
      simp only [proposeAdmin, bind_ok, pure_ok, require_ok, exists_const] at ok
      obtain ⟨admin, nonzero, rfl⟩ := ok
      exact .administered (.proposed rfl admin nonzero)
    | acceptAdmin =>
      have ok := atomically_done.mp started
      simp only [acceptAdmin, bind_ok, pure_ok, require_ok, exists_const] at ok
      obtain ⟨proposed, rfl⟩ := ok
      exact .administered (.accepted rfl proposed)
    | setDefaultProvider provider =>
      have ok := atomically_done.mp started
      simp only [setDefaultProvider, bind_ok, pure_ok, require_ok, exists_const] at ok
      obtain ⟨admin, rfl⟩ := ok
      exact .administered (.defaultProvider rfl admin)
    | setFee feeInWei =>
      have ok := atomically_done.mp started
      simp only [setFee, bind_ok, pure_ok, require_ok, exists_const] at ok
      obtain ⟨admin, rfl⟩ := ok
      exact .administered (.fee rfl admin)
    | forceEther amount =>
      cases started
      exact .forced rfl
    | foreign => cases started

/-- **Every call that makes a message call.** -/
theorem start_calling {w' : World Bytes32} {pending : Pending Bytes32}
    (started : start K m w = .calling w' pending) : Calls K m w w' pending := by
  obtain ⟨msg, call⟩ := m
  unfold start at started
  split at started
  · cases started
  · cases call with
    | withdrawFees amount =>
      simp only at started
      split at started
      · next w₁ withdrawn =>
        obtain ⟨admin, enough, funded, rfl⟩ := withdrawFees_ok withdrawn
        cases started
        exact .withdrawal rfl admin enough funded
      · cases started
    | revealWithCallback provider n u v startingGas endingGas len =>
      exact revealWithCallback_calling rfl started
    | refundRequest provider n => exact refundRequest_calling rfl started
    | foreign =>
      cases started
      exact .foreign rfl
    | requestV2Disabled => cases started
    | feeModelDisabled => cases started
    | forceEther amount => cases started
    | _ => exact absurd started atomically_calling

/-- The sequence number in a waiting reveal is one a request can have. -/
def Pending.Proper : Pending Bytes32 → Prop
  | .limited _ _ n _ _ _ _ => n ≠ 0
  | _ => True

theorem Calls.proper {w' : World Bytes32} {pending : Pending Bytes32}
    (calls : Calls K m w w' pending) : pending.Proper := by
  cases calls with
  | limited _ checks _ _ => exact nonzero_of_found checks.found
  | _ => trivial

/-- **The rest of every call.** -/
theorem resume_ok {pending : Pending Bytes32} {result : CallResult} {w' : World Bytes32}
    (proper : pending.Proper) (resumed : resume K pending result w = .ok w') :
    Resumes K result w pending w' := by
  cases pending with
  | limited ref provider n u v random startingGas =>
    simp only [resume, revealWithCallbackLimited, bind_ok, checkedSub_ok, toUint_ok] at resumed
    obtain ⟨_, ⟨spent, rfl⟩, _, ⟨fits, rfl⟩, branch⟩ := resumed
    split at branch
    · next success =>
      rw [setState_clearRequest proper, pure_ok, World.setState_state,
        State.read_setCallbackStatus] at branch
      exact branch ▸ .limitedDelivered success spent fits
    · next failure =>
      split at branch
      · next enough =>
        simp only [World.setState_state, World.emit_state, State.read_setCallbackStatus,
          State.setCallbackStatus_twice, pure_ok] at branch enough
        exact branch ▸ .limitedFailed (by simpa using failure) spent fits enough
      · cases branch
  | unlimited callAddress provider n u v random startingGas =>
    simp only [resume, revealWithCallbackUnlimited, bind_ok, checkedSub_ok, toUint_ok, pure_ok]
      at resumed
    obtain ⟨_, ⟨spent, rfl⟩, _, ⟨fits, rfl⟩, rfl⟩ := resumed
    cases success : result.success with
    | true => exact .unlimitedDelivered success spent fits
    | false => exact .unlimitedFailed success spent fits
  | refund provider requester n amount =>
    simp only [resume, refundRequestSent, bind_ok, pure_ok, require_ok, exists_const] at resumed
    obtain ⟨success, rfl⟩ := resumed
    exact .refund success
  | withdrawal =>
    simp only [resume, withdrawFeesSent, bind_ok, pure_ok, require_ok, exists_const] at resumed
    obtain ⟨success, rfl⟩ := resumed
    exact .withdrawal success
  | foreign =>
    simp only [resume, bind_ok, pure_ok, require_ok, exists_const] at resumed
    obtain ⟨success, rfl⟩ := resumed
    exact .foreign success

end Halves

end Dice
