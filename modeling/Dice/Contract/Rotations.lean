/-
**When a provider can be registered again.**

* `Paced` — the invariant of one provider: its current commitment was put on chain under the current
  registration, nothing above it was, and every number between it and the counter was assigned to a
  request under the current registration.
* `registerFor_exact` — a registered provider can be registered again exactly when the last number
  it assigned is settled under the current registration: revealed, advanced to, or, when there is no
  such number yet, registered itself.

The guard looks at two counters only. It does not see whether earlier requests are still active, and
a refund of the last request does not settle it.
-/

import Dice.Contract.Freshness

set_option linter.unusedSectionVars false

namespace Dice

variable {Bytes32 : Type}

/-! ### Entries of a provider's chain -/

/-- The place on a provider's chain that an entry puts a value at. -/
def Entry.place (provider : Address) : Entry Bytes32 → Option ℕ
  | .registered other index _ => if other = provider then some index else none
  | .advanced other index _ => if other = provider then some index else none
  | .revealed other index _ => if other = provider then some index else none
  | _ => none

/-- A request with this number was made under the current registration. -/
def RequestedSince (provider : Address) (history : List (Entry Bytes32)) (n : ℕ) : Prop :=
  ∃ caller u gasLimit, .emitted (.requested provider caller n u gasLimit) ∈
    currentRegistration provider history

/-- Entries that are not about a provider's chain. -/
def Bystanders (provider : Address) (new : List (Entry Bytes32)) : Prop :=
  ∀ entry ∈ new, entry.registers provider = false ∧ entry.place provider = none

section Entries

variable {provider : Address} {new older : List (Entry Bytes32)} {entry : Entry Bytes32}

theorem currentRegistration_subset (provider : Address) (history : List (Entry Bytes32)) :
    currentRegistration provider history ⊆ history := by
  induction history with
  | nil => exact List.Subset.refl _
  | cons first older ih =>
    unfold currentRegistration
    refine List.cons_subset_cons first ?_
    split
    · exact List.nil_subset _
    · exact ih

theorem currentRegistration_append (older : List (Entry Bytes32))
    (none : ∀ entry ∈ new, entry.registers provider = false) :
    currentRegistration provider (new ++ older) = new ++ currentRegistration provider older := by
  induction new with
  | nil => rfl
  | cons first new ih =>
    have rest := ih fun entry member => none entry (List.mem_cons_of_mem _ member)
    show first :: (if first.registers provider then [] else
      currentRegistration provider (new ++ older)) = _
    rw [none first List.mem_cons_self, rest]
    rfl

theorem currentRegistration_cons (older : List (Entry Bytes32))
    (other : entry.registers provider = false) :
    currentRegistration provider (entry :: older) =
      entry :: currentRegistration provider older := by
  have alone : ∀ only ∈ [entry], only.registers provider = false := by simpa using other
  exact currentRegistration_append older alone

theorem Discloses.mono {index : ℕ} {value : Bytes32}
    (grows : currentRegistration provider older ⊆ currentRegistration provider new)
    (discloses : Discloses provider older index value) : Discloses provider new index value := by
  rcases discloses with registered | advanced | ⟨revealed, caller, u, gasLimit, requested⟩
  · exact .inl (grows registered)
  · exact .inr (.inl (grows advanced))
  · exact .inr (.inr ⟨grows revealed, caller, u, gasLimit, grows requested⟩)

/-- A disclosed value stands at the place of some entry. -/
theorem Discloses.placed {index : ℕ} {value : Bytes32}
    (discloses : Discloses provider older index value) :
    ∃ entry ∈ currentRegistration provider older, entry.place provider = some index := by
  rcases discloses with registered | advanced | ⟨revealed, _⟩
  · exact ⟨_, registered, if_pos rfl⟩
  · exact ⟨_, advanced, if_pos rfl⟩
  · exact ⟨_, revealed, if_pos rfl⟩

theorem Entry.bystander_of_plain (plain : entry.plain = true) :
    entry.registers provider = false ∧ entry.place provider = none := by
  cases entry with
  | registered _ _ _ => cases plain
  | advanced _ _ _ => cases plain
  | revealed _ _ _ => cases plain
  | _ => exact ⟨rfl, rfl⟩

theorem Bystanders.of_plain (plain : ∀ entry ∈ new, entry.plain = true) :
    Bystanders provider new :=
  fun entry member => Entry.bystander_of_plain (plain entry member)

theorem Bystanders.one (other : entry.registers provider = false)
    (place : entry.place provider = none) : Bystanders provider [entry] := by
  intro entry' member
  obtain rfl := List.mem_singleton.mp member
  exact ⟨other, place⟩

theorem Bystanders.cons (other : entry.registers provider = false)
    (place : entry.place provider = none) (rest : Bystanders provider new) :
    Bystanders provider (entry :: new) := by
  intro entry' member
  rcases List.mem_cons.mp member with rfl | member
  · exact ⟨other, place⟩
  · exact rest entry' member

/-- What a registration leaves in the history. -/
def registration (provider : Address) (index : ℕ) (commitment : Bytes32) : List (Entry Bytes32) :=
  [.emitted (.registered provider), .registered provider index commitment]

theorem currentRegistration_registration {index : ℕ} {commitment : Bytes32} :
    currentRegistration provider (registration provider index commitment ++ older) =
      registration provider index commitment := by
  show currentRegistration provider ([.emitted (.registered provider)] ++
    (.registered provider index commitment :: older)) = _
  rw [currentRegistration_append _ (by simp [Entry.registers])]
  have registers : Entry.registers provider (.registered provider index commitment) = true :=
    decide_eq_true rfl
  rw [currentRegistration, registers]
  rfl

theorem Bystanders.registration {other : Address} {index : ℕ} {commitment : Bytes32}
    (different : other ≠ provider) :
    Bystanders other (Dice.registration provider index commitment) :=
  .cons rfl rfl (.one (decide_eq_false different.symm) (if_neg different.symm))

end Entries

/-! ### The invariant -/

/-- **The pace of a provider.** Its counters against what the history says was disclosed and
assigned under its registration. -/
structure Paced (provider : Address) (p : ProviderInfo Bytes32)
    (history : List (Entry Bytes32)) : Prop where
  original_le : p.sequenceNumber ≠ 0 →
    p.originalCommitmentSequenceNumber ≤ p.currentCommitmentSequenceNumber
  current_lt : p.sequenceNumber ≠ 0 → p.currentCommitmentSequenceNumber < p.sequenceNumber
  unregistered : p.sequenceNumber = 0 → p.endSequenceNumber = 0
  reached : p.sequenceNumber ≠ 0 →
    ∃ value, Discloses provider history p.currentCommitmentSequenceNumber value
  passed : ∀ {entry index}, entry ∈ currentRegistration provider history →
    entry.place provider = some index → index ≤ p.currentCommitmentSequenceNumber
  between : ∀ {n}, p.currentCommitmentSequenceNumber < n → n < p.sequenceNumber →
    RequestedSince provider history n

/-- The invariant of a world: every provider is paced, and the zero address is none. -/
structure InStep (w : World Bytes32) : Prop where
  paced : ∀ provider, Paced provider (w.state.providers provider) w.history
  zero : (w.state.providers 0).sequenceNumber = 0

variable {K : Keccak Bytes32} [DecidableEq Bytes32]

section Invariant

variable {provider : Address} {p q : ProviderInfo Bytes32} {history new : List (Entry Bytes32)}
variable {w w' : World Bytes32}

/-- The chain stays and nothing is said about it. -/
theorem Paced.bystand (paced : Paced provider p history) (same : q.SameChain p)
    (bystanders : Bystanders provider new) : Paced provider q (new ++ history) := by
  have recent := currentRegistration_append history
    fun entry member => (bystanders entry member).1
  have grows : currentRegistration provider history ⊆
      currentRegistration provider (new ++ history) := by
    rw [recent]
    exact List.subset_append_right _ _
  obtain ⟨_, original, last, sequence, _, current⟩ := same
  refine ⟨?_, ?_, ?_, ?_, fun {entry index} member place => ?_, fun {n} above below => ?_⟩
  · rw [sequence, original, current]
    exact paced.original_le
  · rw [sequence, current]
    exact paced.current_lt
  · rw [sequence, last]
    exact paced.unregistered
  · rw [sequence, current]
    intro registered
    obtain ⟨value, discloses⟩ := paced.reached registered
    exact ⟨value, discloses.mono grows⟩
  · rw [current]
    rw [recent] at member
    rcases List.mem_append.mp member with member | member
    · rw [(bystanders entry member).2] at place
      cases place
    · exact paced.passed member place
  · rw [current] at above
    rw [sequence] at below
    obtain ⟨caller, u, gasLimit, made⟩ := paced.between above below
    exact ⟨caller, u, gasLimit, grows made⟩

theorem ProviderInfo.SameChain.refl (p : ProviderInfo Bytes32) : p.SameChain p :=
  ⟨rfl, rfl, rfl, rfl, rfl, rfl⟩

/-- A value is put on chain at `n`, above the current commitment. -/
theorem Paced.move (paced : Paced provider p history) {entry : Entry Bytes32} {n : ℕ}
    {value : Bytes32} (other : entry.registers provider = false)
    (place : entry.place provider = some n) (above : p.currentCommitmentSequenceNumber < n)
    (discloses : Discloses provider (entry :: history) n value)
    (original : q.originalCommitmentSequenceNumber = p.originalCommitmentSequenceNumber)
    (current : q.currentCommitmentSequenceNumber = n)
    (sequence : q.sequenceNumber = max p.sequenceNumber (n + 1))
    (registered : p.sequenceNumber ≠ 0) : Paced provider q (entry :: history) := by
  have recent := currentRegistration_cons history other
  have before := paced.original_le registered
  refine ⟨fun _ => ?_, fun _ => ?_, fun zero => ?_, fun _ => ?_, fun {e index} member here => ?_,
    fun {m} high low => ?_⟩
  · rw [original, current]
    omega
  · rw [current, sequence]
    omega
  · rw [sequence] at zero
    omega
  · rw [current]
    exact ⟨value, discloses⟩
  · rw [current]
    rw [recent] at member
    rcases List.mem_cons.mp member with rfl | member
    · rw [place] at here
      cases here
      exact Nat.le_refl _
    · exact Nat.le_trans (paced.passed member here) (Nat.le_of_lt above)
  · rw [current] at high
    rw [sequence] at low
    have assigned : m < p.sequenceNumber := by omega
    obtain ⟨caller, u, gasLimit, made⟩ := paced.between (Nat.lt_trans above high) assigned
    refine ⟨caller, u, gasLimit, ?_⟩
    rw [recent]
    exact List.mem_cons_of_mem _ made

/-- An old value is put on chain. -/
theorem Paced.repeat (paced : Paced provider p history) {n : ℕ} {value : Bytes32}
    (old : n ≤ p.currentCommitmentSequenceNumber) :
    Paced provider p (.revealed provider n value :: history) := by
  have recent : currentRegistration provider (.revealed provider n value :: history) =
      .revealed provider n value :: currentRegistration provider history :=
    currentRegistration_cons _ rfl
  have grows : currentRegistration provider history ⊆
      currentRegistration provider (.revealed provider n value :: history) := by
    rw [recent]
    exact List.subset_cons_self _ _
  refine ⟨paced.original_le, paced.current_lt, paced.unregistered, fun registered => ?_,
    fun {entry index} member place => ?_, fun above below => ?_⟩
  · obtain ⟨value', discloses⟩ := paced.reached registered
    exact ⟨value', discloses.mono grows⟩
  · rw [recent] at member
    rcases List.mem_cons.mp member with rfl | member
    · rw [Entry.place, if_pos rfl] at place
      cases place
      exact old
    · exact paced.passed member place
  · obtain ⟨caller, u, gasLimit, made⟩ := paced.between above below
    exact ⟨caller, u, gasLimit, grows made⟩

/-- A registration starts over. -/
theorem Paced.start {index : ℕ} {commitment : Bytes32}
    (original : p.originalCommitmentSequenceNumber = index)
    (current : p.currentCommitmentSequenceNumber = index)
    (sequence : p.sequenceNumber = index + 1) :
    Paced provider p (registration provider index commitment ++ history) := by
  have recent : currentRegistration provider (registration provider index commitment ++ history) =
      registration provider index commitment := currentRegistration_registration
  refine ⟨fun _ => ?_, fun _ => ?_, fun zero => ?_, fun _ => ⟨commitment, .inl ?_⟩,
    fun {entry place} member here => ?_, fun above below => ?_⟩
  · exact Nat.le_of_eq (original.trans current.symm)
  · rw [current, sequence]
    exact Nat.lt_succ_self _
  · rw [sequence] at zero
    cases zero
  · rw [recent, current]
    exact List.mem_cons_of_mem _ List.mem_cons_self
  · rw [recent] at member
    rw [current]
    rcases List.mem_cons.mp member with rfl | member
    · cases here
    · obtain rfl := List.mem_singleton.mp member
      rw [Entry.place, if_pos rfl] at here
      cases here
      exact Nat.le_refl _
  · rw [current] at above
    rw [sequence] at below
    exact absurd below (Nat.not_lt.mpr above)

/-- What happens to one provider leaves the pace of the others. -/
theorem InStep.setProvider (holds : InStep w) (new : List (Entry Bytes32))
    {info : ProviderInfo Bytes32}
    (providers : w'.state.providers = (w.state.setProvider provider info).providers)
    (history : w'.history = new ++ w.history)
    (bystanders : ∀ other, other ≠ provider → Bystanders other new)
    (nonzero : provider ≠ 0) (paced : Paced provider info (new ++ w.history)) : InStep w' where
  paced other := by
    rw [providers, State.setProvider_providers, history]
    split
    · next same => exact same ▸ paced
    · next different => exact (holds.paced other).bystand (.refl _) (bystanders other different)
  zero := by
    rw [providers, State.setProvider_providers, if_neg nonzero.symm]
    exact holds.zero

theorem InStep.nonzero (holds : InStep w)
    (registered : (w.state.providers provider).sequenceNumber ≠ 0) : provider ≠ 0 := by
  rintro rfl
  exact registered holds.zero

theorem InStep.quiet (holds : InStep w) (quiet : Quiet K w w') : InStep w' where
  paced provider := by
    obtain ⟨new, history, plain⟩ := quiet.history
    rw [quiet.providers, history]
    exact (holds.paced provider).bystand (.refl _) (.of_plain plain)
  zero := by
    rw [quiet.providers]
    exact holds.zero

theorem InStep.accepted (sound : Sound K w) (holds : InStep w) {n : ℕ} {u v : Bytes32}
    {req : Request Bytes32} (checks : RevealChecks K w provider n u v req) :
    InStep (w.accepted provider n v) := by
  have used : n < (w.state.providers provider).sequenceNumber := sound.used checks.found
  have registered : (w.state.providers provider).sequenceNumber ≠ 0 := by omega
  have paced := holds.paced provider
  refine holds.setProvider [.revealed provider n v] rfl rfl
    (fun other different => .one rfl (if_neg different.symm)) (holds.nonzero registered) ?_
  show Paced provider _ (.revealed provider n v :: w.history)
  by_cases later : (w.state.providers provider).currentCommitmentSequenceNumber < n
  · -- a number above the current commitment was assigned under the current registration
    have recent : currentRegistration provider (.revealed provider n v :: w.history) =
        .revealed provider n v :: currentRegistration provider w.history :=
      currentRegistration_cons _ rfl
    obtain ⟨caller, contribution, gasLimit, made⟩ := paced.between later used
    have discloses : Discloses provider (.revealed provider n v :: w.history) n v := by
      refine .inr (.inr ⟨?_, caller, contribution, gasLimit, ?_⟩)
      · rw [recent]
        exact List.mem_cons_self
      · rw [recent]
        exact List.mem_cons_of_mem _ made
    rw [ProviderInfo.revealedAt, if_pos later]
    exact paced.move rfl (if_pos rfl) later discloses rfl rfl (Nat.max_eq_left used).symm
      registered
  · rw [ProviderInfo.revealedAt, if_neg later]
    exact paced.repeat (Nat.le_of_not_lt later)

theorem InStep.advanced (holds : InStep w) {n : ℕ} {v : Bytes32}
    (checks : AdvanceChecks K w provider n v) : InStep (w.advanced provider n v) := by
  have paced := holds.paced provider
  have registered : (w.state.providers provider).sequenceNumber ≠ 0 := by
    intro zero
    have inside := checks.inside
    rw [paced.unregistered zero] at inside
    exact absurd inside (Nat.not_lt_zero n)
  have discloses : Discloses provider (.advanced provider n v :: w.history) n v := by
    refine .inr (.inl ?_)
    rw [currentRegistration_cons _ rfl]
    exact List.mem_cons_self
  exact holds.setProvider [.advanced provider n v] rfl rfl
    (fun other different => .one rfl (if_neg different.symm)) (holds.nonzero registered)
    (paced.move rfl (if_pos rfl) checks.newer discloses rfl rfl rfl registered)

theorem InStep.rotated (holds : InStep w) (nonzero : provider ≠ 0) {commitment : Bytes32}
    {commitmentMetadata uri : Bytes} {chainLength : ℕ} :
    InStep (w.rotated provider commitment commitmentMetadata chainLength uri) :=
  holds.setProvider (registration provider (w.state.providers provider).sequenceNumber commitment)
    rfl rfl (fun _ different => .registration different) nonzero (.start rfl rfl rfl)

/-- What a new request leaves in the history. -/
theorem Bystanders.requested {other : Address} {n gas : ℕ} {u : Bytes32} {msg : Msg} :
    Bystanders other [.emitted (.requested provider msg.sender n u gas),
      .paid msg.sender msg.value] :=
  .cons rfl rfl (.one rfl rfl)

theorem InStep.requested (holds : InStep w) {msg : Msg} {u : Bytes32} {gasLimit gasLimit10k : ℕ}
    (checks : RequestChecks w msg provider gasLimit gasLimit10k) :
    InStep (w.requested K msg provider u gasLimit10k) := by
  have registered := checks.registered
  refine holds.setProvider [.emitted (.requested provider msg.sender
    (w.state.providers provider).sequenceNumber u (gasLimit10k * tenThousand)),
    .paid msg.sender msg.value] rfl rfl (fun _ _ => .requested) (holds.nonzero registered) ?_
  have kept : Paced provider (w.state.providers provider) ([.emitted (.requested provider
      msg.sender (w.state.providers provider).sequenceNumber u (gasLimit10k * tenThousand)),
      .paid msg.sender msg.value] ++ w.history) :=
    (holds.paced provider).bystand (.refl _) .requested
  refine ⟨fun _ => kept.original_le registered,
    fun _ => Nat.lt_succ_of_lt (kept.current_lt registered),
    fun zero => absurd zero (Nat.succ_ne_zero _),
    fun _ => kept.reached registered, fun member place => kept.passed member place,
    fun {n} above below => ?_⟩
  by_cases assigned : n < (w.state.providers provider).sequenceNumber
  · exact kept.between above assigned
  · -- the number of the new request
    have last : n = (w.state.providers provider).sequenceNumber :=
      Nat.le_antisymm (Nat.lt_succ_iff.mp below) (Nat.le_of_not_lt assigned)
    refine ⟨msg.sender, u, gasLimit10k * tenThousand, ?_⟩
    rw [last, List.cons_append, currentRegistration_cons _ rfl]
    exact List.mem_cons_self

theorem InStep.effect (sound : Sound K w) (holds : InStep w) (effect : ChainEffect K w w') :
    InStep w' := by
  cases effect with
  | quiet quiet => exact holds.quiet quiet
  | accepted checks quiet => exact (holds.accepted sound checks).quiet quiet
  | rotated checks => exact holds.rotated checks.provider_ne_zero
  | requested checks => exact holds.requested checks
  | advanced checks => exact holds.advanced checks
  | @configured provider info event registered chain plain =>
    have bystanders : ∀ other, Bystanders other [Entry.emitted event] :=
      fun other => .of_plain (by simpa using plain)
    exact holds.setProvider _ rfl rfl (fun other _ => bystanders other) (holds.nonzero registered)
      ((holds.paced provider).bystand chain (bystanders provider))

theorem inStep_rely (guard : Message Bytes32 → World Bytes32 → Prop) :
    CallStack.Rely (dice K) guard (Sound K) (Evolves K) InStep fun _ _ => True :=
  rely_of_chainEffect (fun sound holds effect => holds.effect sound effect)
    fun holds => ⟨holds.paced, holds.zero⟩

/-- The default provider is not the zero address. -/
theorem constructor_provider_ne_zero {d : Deployment Bytes32} {w : World Bytes32}
    (deployed : constructor K d = .ok w) : d.defaultProvider ≠ 0 := by
  simp only [constructor, bind_ok, require_ok, exists_const] at deployed
  exact deployed.2.1

theorem constructor_inStep {d : Deployment Bytes32} {w : World Bytes32}
    (deployed : constructor K d = .ok w) : InStep w := by
  have unset : ∀ provider history, currentRegistration provider history = history →
      (∀ entry ∈ history, entry.place provider = none) →
      Paced provider (ProviderInfo.unset K) history := by
    intro provider history same plain
    refine ⟨fun registered => absurd rfl registered, fun registered => absurd rfl registered,
      fun _ => rfl, fun registered => absurd rfl registered, fun member place => ?_,
      fun _ below => absurd below (Nat.not_lt_zero _)⟩
    rw [same] at member
    rw [plain _ member] at place
    cases place
  have empty : InStep (d.world K) :=
    ⟨fun provider => unset provider _ rfl (by simp [Deployment.world, Entry.place]), rfl⟩
  rcases constructor_rotated deployed with ⟨_, rfl⟩ | ⟨_, rfl⟩
  · exact empty
  · exact empty.rotated (constructor_provider_ne_zero deployed)

theorem Reachable.inStep {c : Config Bytes32} (reach : Reachable K anyCall c) : InStep c.world :=
  (reach.holds (inStep_rely anyCall) constructor_inStep).1.2

/-! ### The guard of `registerFor` -/

/-- A call that meets the checks is accepted. -/
theorem registerFor_of_checks {msg : Msg} {chainLength : ℕ}
    (checks : RegisterChecks w msg provider chainLength) (feeInWei : ℕ) (commitment : Bytes32)
    (commitmentMetadata uri : Bytes) :
    registerFor w msg provider feeInWei commitment commitmentMetadata chainLength uri =
      .ok (w.rotated provider commitment commitmentMetadata chainLength uri) := by
  have nonempty := checks.nonempty
  have fits := checks.fits
  have next : (w.state.providers provider).sequenceNumber + 1 < 2 ^ 64 := by omega
  simp only [registerFor, revertIf, require, checkedAdd, checks.admin, nonempty,
    checks.provider_ne_zero, ne_eq, not_true_eq_false, if_false, if_pos checks.settled, if_pos fits,
    if_pos next]
  rfl

/-- **The rotation guard is exact.** In every run, with whatever nesting of calls: the admin
registers a registered provider again, for a non-empty chain whose end fits, exactly when the last
number that the provider assigned is settled under its current registration, that is, when it was
registered, advanced to, or revealed after having been requested. -/
theorem registerFor_exact {c : Config Bytes32} (reach : Reachable K anyCall c)
    (registered : (c.world.state.providers provider).sequenceNumber ≠ 0) {msg : Msg}
    (admin : msg.sender = c.world.state.admin) {chainLength : ℕ} (nonempty : 0 < chainLength)
    (fits : (c.world.state.providers provider).sequenceNumber + chainLength < 2 ^ 64)
    (feeInWei : ℕ) (commitment : Bytes32) (commitmentMetadata uri : Bytes) :
    (∃ w', registerFor c.world msg provider feeInWei commitment commitmentMetadata chainLength uri =
        .ok w') ↔
      ∃ value, Discloses provider c.world.history
        ((c.world.state.providers provider).sequenceNumber - 1) value := by
  have paced := reach.inStep.paced provider
  have behind := paced.current_lt registered
  constructor
  · rintro ⟨w', ok⟩
    have settled := (registerFor_ok ok).1.settled registered
    have last : (c.world.state.providers provider).sequenceNumber - 1 =
        (c.world.state.providers provider).currentCommitmentSequenceNumber := by omega
    rw [last]
    exact paced.reached registered
  · rintro ⟨value, discloses⟩
    obtain ⟨entry, member, place⟩ := discloses.placed
    have settled := paced.passed member place
    exact ⟨_, registerFor_of_checks ⟨admin, by omega, reach.inStep.nonzero registered, fun _ => settled,
      fits⟩ feeInWei commitment commitmentMetadata uri⟩

end Invariant

/-- Two requests, and a reveal of the second. -/
def Sample.outOfOrder : List (Action Sym) := [request 1, request 2, reveal 2, succeed]

/-- A request that is refunded. -/
def Sample.refundedOnly : List (Action Sym) :=
  [request 1, wait 6, fromUser (.refundRequest provider 1), succeed]

theorem registerFor_exact_outOfOrder :
    let c := Sample.after Sample.outOfOrder
    (∃ w', registerFor c.world (Sample.msg Sample.admin 0 (by decide)) Sample.provider 0 (.atom 5)
        [] 4 [] = .ok w') ↔
      ∃ value, Discloses Sample.provider c.world.history
        ((c.world.state.providers Sample.provider).sequenceNumber - 1) value :=
  registerFor_exact (Sample.reachable Sample.outOfOrder) (by decide +kernel) (by decide +kernel)
    (by decide) (by decide +kernel) _ _ _ _

/-- **The guard does not see active requests.** After an out-of-order reveal the provider is
registered again although request 1 is active; after a refund it is not although nothing is
active. -/
theorem registerFor_not_active :
    let open_ := Sample.after Sample.outOfOrder
    let idle := Sample.after Sample.refundedOnly
    Reachable symbolic anyCall open_ ∧ Reachable symbolic anyCall idle ∧
    (∃ w', registerFor open_.world (Sample.msg Sample.admin 0 (by decide)) Sample.provider 0
      (.atom 5) [] 4 [] = .ok w') ∧
    (∃ req, open_.world.state.lookup symbolic (Sample.provider, 1) = some req) ∧
    (idle.world.state.providers Sample.provider).sequenceNumber ≠ 0 ∧
    idle.world.state.admin = Sample.admin ∧
    (¬ ∃ w', registerFor idle.world (Sample.msg Sample.admin 0 (by decide)) Sample.provider 0
      (.atom 5) [] 4 [] = .ok w') ∧
    ∀ n, idle.world.state.lookup symbolic (Sample.provider, n) = none := by
  intro open_ idle
  have reach := Sample.reachable Sample.outOfOrder
  have reach' := Sample.reachable Sample.refundedOnly
  have accepted : (registerFor open_.world (Sample.msg Sample.admin 0 (by decide)) Sample.provider 0
      (.atom 5) [] 4 []).isOk = true := by decide +kernel
  have refused : (registerFor idle.world (Sample.msg Sample.admin 0 (by decide)) Sample.provider 0
      (.atom 5) [] 4 []).isOk = false := by decide +kernel
  have active : (open_.world.state.lookup symbolic (Sample.provider, 1)).isSome = true := by
    decide +kernel
  refine ⟨reach, reach', Sample.exists_of_isOk accepted, Option.isSome_iff_exists.mp active,
    by decide +kernel, by decide +kernel, ?_, fun n => ?_⟩
  · rintro ⟨w', ok⟩
    rw [ok] at refused
    cases refused
  · by_contra present
    obtain ⟨req, found⟩ := Option.ne_none_iff_exists'.mp present
    have used : n < (idle.world.state.providers Sample.provider).sequenceNumber :=
      reach'.sound.used found
    have counter : (idle.world.state.providers Sample.provider).sequenceNumber = 2 := by
      decide +kernel
    rw [counter] at used
    have zero : idle.world.state.lookup symbolic (Sample.provider, 0) = none := by decide +kernel
    have one : idle.world.state.lookup symbolic (Sample.provider, 1) = none := by decide +kernel
    obtain rfl | rfl : n = 0 ∨ n = 1 := by omega
    · exact present zero
    · exact present one

end Dice
