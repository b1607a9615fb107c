/-
**The request table as a map**, over runs in which callbacks make no calls.

* `Transaction` — a call together with the reply to its message call; `transact` is what it does.
* `track` — what the transaction does to a ledger of requests: `requestV2` enters the record it wrote
  under the number it returned, a reveal or refund that completes settles its request, and a failed
  gas-limited callback amends the status.
* `Refines` — the table, read as a map, is the ledger.
* `table_refines` — it stays so over every list of transactions, whatever slots collide; so no number
  is returned twice, and `findActiveRequest` finds exactly what is entered and not settled.
-/

import Dice.Contract.Symbolic
import Dice.Library.Ledger

set_option linter.unusedSectionVars false

namespace Dice

variable {Bytes32 : Type} (K : Keccak Bytes32) [DecidableEq Bytes32]

/-- A call and the reply to its message call, if it makes one; without a reply it runs out of gas. Or
new blocks. -/
inductive Transaction (Bytes32 : Type) where
  | call (m : Message Bytes32) (reply : Option CallResult)
  | mine (mined : Mined Bytes32)

/-- The actions of a transaction. -/
def Transaction.actions : Transaction Bytes32 → List (Action Bytes32)
  | .call m (some reply) => [.call m, .ret reply]
  | .call m none => [.call m, .abort]
  | .mine mined => [.idle mined]

/-- The world after a transaction. -/
def transact (w : World Bytes32) : Transaction Bytes32 → World Bytes32
  | .mine mined => mine mined w
  | .call m reply =>
      match start K m w with
      | .reverted _ => w
      | .done w' => w'
      | .calling w₁ pending =>
          match reply with
          | none => w
          | some result =>
              match resume K pending result w₁ with
              | .error _ => w
              | .ok w' => w'

/-- The requests, as the plain map that the table is for. -/
abbrev Requests (Bytes32 : Type) := Ledger RequestKey (Request Bytes32)

/-- What a call that finishes at once does to the requests. -/
def finished (L : Requests Bytes32) (w : World Bytes32) (m : Message Bytes32) : Requests Bytes32 :=
  match m.call with
  | .requestV2 provider u gasLimit =>
      match requestHelper K w m.msg provider (constructUserCommitment K u) false true gasLimit,
        requestV2 K w m.msg provider u gasLimit with
      | .ok (s, ref), .ok (_, n) => L.enter (provider, n) (s.read ref)
      | _, _ => L
  | .reveal provider n _ _ => L.settle (provider, n)
  | .revealWithCallback provider n _ _ _ _ _ => L.settle (provider, n)
  | .refundRequest provider n => L.settle (provider, n)
  | _ => L

/-- What a call that has had its reply does to them. -/
def resumed (L : Requests Bytes32) (pending : Pending Bytes32) (result : CallResult) :
    Requests Bytes32 :=
  match pending with
  | .limited _ provider n _ _ _ _ =>
      if result.success then L.settle (provider, n)
      else L.amend (provider, n) fun req => { req with callbackStatus := .failed }
  | .unlimited _ provider n _ _ _ _ => L.settle (provider, n)
  | .refund provider _ n _ => L.settle (provider, n)
  | _ => L

/-- What a transaction does to them. -/
def track (L : Requests Bytes32) (w : World Bytes32) : Transaction Bytes32 → Requests Bytes32
  | .mine _ => L
  | .call m reply =>
      match start K m w with
      | .reverted _ => L
      | .done _ => finished K L w m
      | .calling w₁ pending =>
          match reply with
          | none => L
          | some result =>
              match resume K pending result w₁ with
              | .error _ => L
              | .ok _ => resumed L pending result

/-- **The table is the ledger.** -/
structure Refines (w : World Bytes32) (L : Requests Bytes32) : Prop where
  sound : Sound K w
  lookup : w.state.lookup K = L.records
  proper : L.Proper
  used : ∀ key ∈ L.entered, w.Used key

section Steps

variable {K} {m : Message Bytes32} {w w' w₁ : World Bytes32} {L : Requests Bytes32}
variable {pending : Pending Bytes32} {result : CallResult}

/-- Without an open call a reply, or the lack of one, does nothing. -/
theorem step_without_frames (w : World Bytes32) (reply : Option CallResult) :
    (dice K).step ⟨w, []⟩ (match reply with
      | some result => .ret result
      | none => .abort) = ⟨w, []⟩ := by
  cases reply <;> rfl

/-- The two actions of a call. -/
theorem run_call (c : Config Bytes32) (m : Message Bytes32) (reply : Option CallResult) :
    (dice K).run c (Transaction.call m reply).actions =
      (dice K).step ((dice K).step c (.call m)) (match reply with
        | some result => .ret result
        | none => .abort) := by
  cases reply <;> rfl

/-- **A transaction runs as its actions.** -/
theorem run_actions (w : World Bytes32) (transaction : Transaction Bytes32) :
    (dice K).run ⟨w, []⟩ transaction.actions = ⟨transact K w transaction, []⟩ := by
  cases transaction with
  | mine mined => rfl
  | call m reply =>
    rw [run_call]
    cases started : start K m w with
    | reverted error =>
      have stays : (dice K).step ⟨w, []⟩ (.call m) = ⟨w, []⟩ :=
        CallStack.Component.step_reverted started
      rw [stays, step_without_frames]
      simp only [transact, started]
    | done w' =>
      have ends : (dice K).step ⟨w, []⟩ (.call m) = ⟨w', []⟩ :=
        CallStack.Component.step_done started
      rw [ends, step_without_frames]
      simp only [transact, started]
    | calling w₁ pending =>
      have waits : (dice K).step ⟨w, []⟩ (.call m) = ⟨w₁, [⟨w, w₁, pending⟩]⟩ :=
        CallStack.Component.step_calling started
      rw [waits]
      cases reply with
      | none =>
        simp only [transact, started]
        rfl
      | some result =>
        -- nothing was called in between, so the reply does not matter for the world
        have kept : (dice K).resumeWorld ⟨w, w₁, pending⟩ result w₁ = w₁ := ite_self _
        have finish : (dice K).finish ⟨w, w₁, pending⟩ result w₁ =
            transact K w (.call m (some result)) := by
          simp only [transact, started]
          cases resumed : resume K pending result w₁ with
          | error error =>
            have refused : (dice K).resume pending result
                ((dice K).resumeWorld ⟨w, w₁, pending⟩ result w₁) = .error error := by
              rw [kept]
              exact resumed
            exact CallStack.Component.finish_error refused
          | ok w' =>
            have ended : (dice K).resume pending result
                ((dice K).resumeWorld ⟨w, w₁, pending⟩ result w₁) = .ok w' := by
              rw [kept]
              exact resumed
            exact CallStack.Component.finish_ok ended
        rw [← finish]
        rfl

/-! ### One transaction -/

/-- Nothing happened to the requests. -/
theorem Refines.of_lookup (refines : Refines K w L) (sound' : Sound K w')
    (lookup : w'.state.lookup K = w.state.lookup K) (counter : w.CountsUp w') : Refines K w' L where
  sound := sound'
  lookup := lookup.trans refines.lookup
  proper := refines.proper
  used key member := (refines.used key member).mono counter

theorem Refines.live (refines : Refines K w L) {key : RequestKey} {req : Request Bytes32}
    (found : w.state.lookup K key = some req) : L.records key ≠ none := by
  rw [← refines.lookup, found]
  exact nofun

/-- A request was settled. -/
theorem Refines.settle (refines : Refines K w L) (sound' : Sound K w') {key : RequestKey}
    {req : Request Bytes32} (found : w.state.lookup K key = some req)
    (lookup : w'.state.lookup K = Function.update (w.state.lookup K) key none)
    (counter : w.CountsUp w') : Refines K w' (L.settle key) where
  sound := sound'
  lookup := by
    rw [lookup, refines.lookup]
    rfl
  proper := refines.proper.settle (refines.live found)
  used other member := (refines.used other member).mono counter

/-- Writing a status behind the pointer of a request. -/
theorem lookup_withStatus (wf : (requestScheme K).WellFormed w.state.table)
    {ref : RequestRef Bytes32} (status : CallbackStatus) {key : RequestKey}
    (here : (w.state.read ref).key = some key) :
    (w.withStatus ref status).state.lookup K = Function.update (w.state.lookup K) key
      (some { w.state.read ref with callbackStatus := status }) := by
  funext other
  show (w.state.setCallbackStatus ref status).lookup K other = _
  rw [State.lookup_setCallbackStatus wf, Function.update_apply, here]
  by_cases same : other = key
  · rw [if_pos same, if_pos (congrArg some same.symm)]
  · rw [if_neg same, if_neg fun both => same (Option.some.inj both).symm]

/-- The request that `requestV2` made, and the number it returned. -/
theorem finished_requestV2 {provider : Address} {u : Bytes32} {gasLimit : ℕ}
    (call : m.call = .requestV2 provider u gasLimit) (started : start K m w = .done w') :
    ∃ gasLimit10k, RequestChecks w m.msg provider gasLimit gasLimit10k ∧
      w' = w.requested K m.msg provider u gasLimit10k ∧
      finished K L w m = L.enter (provider, (w.state.providers provider).sequenceNumber)
        (madeRequest K w m.msg provider u gasLimit10k) := by
  obtain ⟨msg, _⟩ := m
  cases call
  have payable : start K ⟨msg, .requestV2 provider u gasLimit⟩ w =
      atomically ((requestV2 K w msg provider u gasLimit).map Prod.fst) := by
    unfold start
    rw [if_neg (by simp [Call.payable])]
  rw [payable] at started
  obtain ⟨⟨_, n⟩, requested, rfl⟩ := map_ok.mp (atomically_done.mp started)
  have inner := requested
  simp only [requestV2, bind_ok, pure_ok, Prod.exists, Prod.mk.injEq] at inner
  obtain ⟨s, ref, helper, _, _⟩ := inner
  obtain ⟨gasLimit10k, checks, rfl, rfl⟩ := requestV2_ok requested
  obtain ⟨gasLimit10k', checks', rfl, read⟩ := requestHelper_ok helper
  have same : gasLimit10k' = gasLimit10k := by
    have gas := checks'.gas.symm.trans checks.gas
    injection gas
  subst same
  refine ⟨gasLimit10k', checks, rfl, ?_⟩
  simp only [finished, helper, requested, read]

theorem Refines.done (refines : Refines K w L) (started : start K m w = .done w') :
    Refines K w' (finished K L w m) := by
  have finishes := start_done started
  obtain ⟨sound', evolves⟩ := finishes.evolves refines.sound
  cases finishes with
  | @requested provider u gasLimit _ call _ =>
    obtain ⟨gasLimit10k, checks, same, entered⟩ := finished_requestV2 (L := L) call started
    rw [same] at sound' evolves ⊢
    rw [entered]
    have fresh : (provider, (w.state.providers provider).sequenceNumber) ∉ L.entered :=
      fun member => w.requested_fresh provider (refines.used _ member)
    refine ⟨sound', ?_, refines.proper.enter fresh _, fun key member => ?_⟩
    · rw [lookup_requested refines.sound m.msg u gasLimit10k checks.registered, refines.lookup]
      rfl
    · rcases List.mem_cons.mp member with rfl | member
      · exact w.requested_used m.msg provider u gasLimit10k
      · exact (refines.used key member).mono evolves.counter
  | revealed _ checks status _ => exact absurd status (refines.sound.withCallback checks.found)
  | noCallback call checks _ _ _ =>
    have settled := refines.settle sound' checks.found (lookup_of_removed refines.sound.wf rfl)
      evolves.counter
    simp only [finished, call]
    exact settled
  | refundedNothing call checks _ =>
    have settled := refines.settle sound' checks.found (lookup_of_removed refines.sound.wf rfl)
      evolves.counter
    simp only [finished, call]
    exact settled
  | registered call _ =>
    simp only [finished, call]
    exact refines.of_lookup sound' (State.lookup_congr rfl) evolves.counter
  | advanced call _ =>
    simp only [finished, call]
    exact refines.of_lookup sound' (State.lookup_congr rfl) evolves.counter
  | configured _ configures =>
    have untouched : finished K L w m = L := by
      cases configures with
      | uri call => simp only [finished, call]
      | maxNumHashes call => simp only [finished, call]
      | defaultGasLimit call _ => simp only [finished, call]
    rw [untouched]
    exact refines.of_lookup sound' (State.lookup_congr rfl) evolves.counter
  | administered administers =>
    have untouched : finished K L w m = L := by
      cases administers with
      | proposed call _ _ => simp only [finished, call]
      | accepted call _ => simp only [finished, call]
      | defaultProvider call _ => simp only [finished, call]
      | fee call _ => simp only [finished, call]
    rw [untouched]
    exact refines.of_lookup sound' (State.lookup_congr administers.table) evolves.counter
  | forced call =>
    simp only [finished, call]
    exact refines.of_lookup sound' (State.lookup_congr rfl) evolves.counter

/-- In the gas-limited branch only the status of the request changes before the callback. -/
theorem lookup_of_limited (sound : Sound K w) {ref : RequestRef Bytes32} {provider : Address}
    {n startingGas : ℕ} {u v random : Bytes32}
    (calls : Calls K m w w₁ (.limited ref provider n u v random startingGas)) :
    ∃ req, w.state.lookup K (provider, n) = some req ∧
      w₁.state.read ref = { req with callbackStatus := .inProgress } ∧
      w₁.state.lookup K = Function.update (w.state.lookup K) (provider, n)
        (some { req with callbackStatus := .inProgress }) := by
  cases calls with
  | limited _ checks _ _ =>
    have read : (w.accepted provider n v).state.read (findRequest K w.state provider n) = _ :=
      read_findRequest checks.found
    have sound' := (accepted_evolves sound provider n v).1
    have live : ((w.accepted provider n v).state.read (findRequest K w.state provider n)).key =
        some (provider, n) := by
      rw [read]
      exact SlotTable.Scheme.lookup_key checks.found
    refine ⟨_, checks.found, ?_, ?_⟩
    · rw [World.record_state, World.setState_state, State.read_setCallbackStatus, read]
    · have written := lookup_withStatus sound'.wf .inProgress live
      rw [read] at written
      exact written

/-- After a successful callback in that branch the request is settled. -/
theorem lookup_of_delivered (sound : Sound K w) {ref : RequestRef Bytes32} {provider : Address}
    {n startingGas : ℕ} {u v random : Bytes32}
    (calls : Calls K m w w₁ (.limited ref provider n u v random startingGas))
    (success : result.success = true)
    (resumes : Resumes K result w₁ (.limited ref provider n u v random startingGas) w') :
    w'.state.lookup K = Function.update (w.state.lookup K) (provider, n) none := by
  have sound₁ := (calls.advances sound).1
  obtain ⟨req, found, read, lookup⟩ := lookup_of_limited sound calls
  have live : (w₁.state.read ref).key = some (provider, n) := by
    rw [read]
    exact SlotTable.Scheme.lookup_key found
  cases resumes with
  | limitedDelivered _ _ _ =>
    have written : Sound K (w₁.withStatus ref .notStarted) := sound₁.withStatus ref (by decide)
    show ((w₁.withStatus ref .notStarted).cleared K provider n).state.lookup K = _
    rw [lookup_of_removed written.wf rfl, lookup_withStatus sound₁.wf .notStarted live, lookup,
      Function.update_idem, Function.update_idem]
  | limitedFailed failure _ _ _ =>
    rw [success] at failure
    cases failure

theorem Refines.resumed_limited (refines : Refines K w L) {ref : RequestRef Bytes32}
    {provider : Address} {n startingGas : ℕ} {u v random : Bytes32}
    (calls : Calls K m w w₁ (.limited ref provider n u v random startingGas))
    (resumes : Resumes K result w₁ (.limited ref provider n u v random startingGas) w') :
    Refines K w' (resumed L (.limited ref provider n u v random startingGas) result) := by
  obtain ⟨sound₁, advances⟩ := calls.advances refines.sound
  obtain ⟨sound', keeps⟩ := resumes.keeps sound₁
  obtain ⟨req, found, read, lookup⟩ := lookup_of_limited refines.sound calls
  have counter : w.CountsUp w' := (advances.toKeeps.trans keeps).counter
  have live : (w₁.state.read ref).key = some (provider, n) := by
    rw [read]
    exact SlotTable.Scheme.lookup_key found
  have delivered := fun success => lookup_of_delivered refines.sound calls success resumes
  cases resumes with
  | limitedDelivered success _ _ =>
    have refines' := refines.settle sound' found (delivered success) counter
    have ledger : resumed L (.limited ref provider n u v random startingGas) result =
        L.settle (provider, n) := if_pos success
    rw [ledger]
    exact refines'
  | limitedFailed failure _ _ _ =>
    have ledger : resumed L (.limited ref provider n u v random startingGas) result =
        L.amend (provider, n) fun req => { req with callbackStatus := .failed } :=
      if_neg (Bool.eq_false_iff.mp failure)
    rw [ledger]
    refine ⟨sound', ?_, refines.proper.amend _, fun key member => ?_⟩
    · have written := lookup_withStatus sound₁.wf .failed live
      rw [read, lookup, Function.update_idem, refines.lookup] at written
      rw [refines.lookup] at found
      show (w₁.withStatus ref .failed).state.lookup K =
        Function.update L.records (provider, n) ((L.records (provider, n)).map _)
      rw [found]
      exact written
    · exact (refines.used key member).mono counter

/-- A call that had its reply, with nothing called in between. -/
theorem Refines.resumed (refines : Refines K w L) (calls : Calls K m w w₁ pending)
    (resumes : Resumes K result w₁ pending w') : Refines K w' (resumed L pending result) := by
  by_cases limited : pending.Limited
  · cases pending with
    | limited _ _ _ _ _ _ _ => exact refines.resumed_limited calls resumes
    | _ => cases limited
  · obtain ⟨sound₁, advances⟩ := calls.advances refines.sound
    obtain ⟨sound', second⟩ := resumes.evolves sound₁ limited
    have counter : w.CountsUp w' := (advances.toKeeps.trans second.toKeeps).counter
    have same : w'.state.lookup K = w₁.state.lookup K := by
      cases resumes with
      | limitedDelivered _ _ _ => exact absurd trivial limited
      | limitedFailed _ _ _ _ => exact absurd trivial limited
      | _ => exact State.lookup_congr rfl
    cases calls with
    | limited _ _ _ _ => exact absurd trivial limited
    | unlimited _ checks _ _ =>
      exact refines.settle sound' checks.found
        (same.trans (lookup_of_removed refines.sound.wf rfl)) counter
    | refund _ checks _ _ _ =>
      exact refines.settle sound' checks.found
        (same.trans (lookup_of_removed refines.sound.wf rfl)) counter
    | withdrawal _ _ _ _ => exact refines.of_lookup sound' same counter
    | foreign _ => exact refines.of_lookup sound' same counter

/-- **One transaction.** -/
theorem Refines.transact (refines : Refines K w L) (transaction : Transaction Bytes32) :
    Refines K (transact K w transaction) (track K L w transaction) := by
  cases transaction with
  | mine mined =>
    have sound' : Sound K (mine mined w) :=
      refines.sound.of_same rfl (World.countsUp_of_same rfl)
    exact refines.of_lookup sound' (State.lookup_congr rfl) (World.countsUp_of_same rfl)
  | call m reply =>
    cases started : start K m w with
    | reverted error =>
      simp only [Dice.transact, track, started]
      exact refines
    | done w' =>
      simp only [Dice.transact, track, started]
      exact refines.done started
    | calling w₁ pending =>
      have calls := start_calling started
      cases reply with
      | none =>
        simp only [Dice.transact, track, started]
        exact refines
      | some result =>
        cases ended : resume K pending result w₁ with
        | error error =>
          simp only [Dice.transact, track, started, ended]
          exact refines
        | ok w' =>
          simp only [Dice.transact, track, started, ended]
          exact refines.resumed calls (resume_ok calls.proper ended)

/-! ### Runs -/

/-- The world and the requests after a list of transactions. -/
def transactAll (K : Keccak Bytes32) (w : World Bytes32) (L : Requests Bytes32) :
    List (Transaction Bytes32) → World Bytes32 × Requests Bytes32
  | [] => (w, L)
  | transaction :: rest => transactAll K (transact K w transaction) (track K L w transaction) rest

theorem run_append (c : Config Bytes32) (first second : List (Action Bytes32)) :
    (dice K).run c (first ++ second) = (dice K).run ((dice K).run c first) second :=
  List.foldl_append

theorem run_transactions (w : World Bytes32) (L : Requests Bytes32)
    (transactions : List (Transaction Bytes32)) :
    (dice K).run ⟨w, []⟩ (transactions.flatMap Transaction.actions) =
      ⟨(transactAll K w L transactions).1, []⟩ := by
  induction transactions generalizing w L with
  | nil => rfl
  | cons transaction rest ih =>
    rw [List.flatMap_cons, run_append, run_actions]
    exact ih (transact K w transaction) (track K L w transaction)

/-- **Any number of transactions.** -/
theorem Refines.transactAll (refines : Refines K w L) (transactions : List (Transaction Bytes32)) :
    Refines K (transactAll K w L transactions).1 (transactAll K w L transactions).2 := by
  induction transactions generalizing w L with
  | nil => exact refines
  | cons transaction rest ih => exact ih (refines.transact transaction)

theorem constructor_refines {d : Deployment Bytes32} (deployed : constructor K d = .ok w) :
    Refines K w .empty where
  sound := constructor_sound deployed
  lookup := funext (constructor_lookup deployed)
  proper := .empty
  used _ member := by cases member

theorem Refines.findActiveRequest (refines : Refines K w L) {provider : Address} {n : ℕ} :
    ((provider, n) ∈ L.entered → (provider, n) ∉ L.settled →
      ∃ ref, findActiveRequest K w.state provider n = .ok ref ∧
        L.records (provider, n) = some (w.state.read ref)) ∧
    ((provider, n) ∉ L.entered ∨ (provider, n) ∈ L.settled →
      findActiveRequest K w.state provider n = .error .noSuchRequest) := by
  have live := refines.proper.records (provider, n)
  rw [findActiveRequest_eq]
  cases found : w.state.lookup K (provider, n) with
  | none =>
    rw [← refines.lookup, found] at live
    refine ⟨fun entered unsettled => absurd rfl (live.mpr ⟨entered, unsettled⟩), fun _ => rfl⟩
  | some req =>
    rw [← refines.lookup, found] at live ⊢
    obtain ⟨entered, unsettled⟩ := live.mp nofun
    refine ⟨fun _ _ => ⟨_, rfl, by rw [read_findRequest found]⟩, ?_⟩
    rintro (never | settled)
    · exact absurd entered never
    · exact absurd settled unsettled

/-- **The table refines a map.** After any list of transactions, over whatever providers and by
whatever callers, with no call nested in a callback: the numbers that `requestV2` returned are all
different; `findActiveRequest` points to the record last written for every request that was made and
is not settled, whatever slots collided; and for every other pair it reverts. -/
theorem table_refines {d : Deployment Bytes32} {origin : World Bytes32}
    (deployed : constructor K d = .ok origin) (transactions : List (Transaction Bytes32)) :
    let w := (Dice.transactAll K origin .empty transactions).1
    let L := (Dice.transactAll K origin .empty transactions).2
    (dice K).run ⟨origin, []⟩ (transactions.flatMap Transaction.actions) = ⟨w, []⟩ ∧
      L.entered.Nodup ∧
      (∀ provider n, (provider, n) ∈ L.entered → (provider, n) ∉ L.settled →
        ∃ ref, findActiveRequest K w.state provider n = .ok ref ∧
          L.records (provider, n) = some (w.state.read ref)) ∧
      ∀ provider n, (provider, n) ∉ L.entered ∨ (provider, n) ∈ L.settled →
        findActiveRequest K w.state provider n = .error .noSuchRequest := by
  have refines := (constructor_refines deployed).transactAll transactions
  refine ⟨run_transactions origin .empty transactions, refines.proper.nodup, fun provider n => ?_,
    fun provider n => ?_⟩
  · exact refines.findActiveRequest.1
  · exact refines.findActiveRequest.2

end Steps

namespace Sample

def call (sender : Address) (value : ℕ) (nonzero : sender ≠ 0) (call : Call Sym)
    (reply : Option CallResult) : Transaction Sym :=
  .call ⟨msg sender value nonzero, call⟩ reply

/-- Two requests in one slot, the second of which is revealed. -/
def collision : List (Transaction Sym) :=
  [call user 10 user_ne_zero (.requestV2 provider (contribution 1) 0) none,
    call user 10 user_ne_zero (.requestV2 provider (contribution 2) 0) none,
    call provider 0 provider_ne_zero
      (.revealWithCallback provider 2 (contribution 2) (value 2) 1000000 0 1)
      (some ⟨true, [], 900000⟩)]

end Sample

/-- The first request is found, the second is settled, and there is no third. -/
theorem table_refines_collision :
    let w := (transactAll symbolic Sample.world .empty Sample.collision).1
    let L := (transactAll symbolic Sample.world .empty Sample.collision).2
    L.entered.Nodup ∧
      (∃ ref, findActiveRequest symbolic w.state Sample.provider 1 = .ok ref ∧
        L.records (Sample.provider, 1) = some (w.state.read ref)) ∧
      findActiveRequest symbolic w.state Sample.provider 2 = .error .noSuchRequest ∧
      findActiveRequest symbolic w.state Sample.provider 3 = .error .noSuchRequest := by
  intro w L
  obtain ⟨_, nodup, found, missing⟩ := table_refines Sample.deployed Sample.collision
  exact ⟨nodup, found _ _ (by decide +kernel) (by decide +kernel),
    missing _ _ (.inr (by decide +kernel)), missing _ _ (.inl (by decide +kernel))⟩

end Dice
