/-
**When a request is settled in one way only.**

`refundRequest` asks only whether the request is active, and a request stays active while its
gas-limited callback runs and after that callback has failed.

* `RefundsUncalled` — the refunds of requests whose callback was never started.
* `SettledOnce` — the invariant of runs with no other refunds: at most one refund, and none of a
  request that was revealed.
* `settled_once` — this holds in every such run.
* `refunded_and_revealed` — without the restriction a requester gets both the random number and the
  fee.
-/

import Dice.Contract.Lives

set_option linter.unusedSectionVars false

namespace Dice

variable {Bytes32 : Type} (K : Keccak Bytes32) [DecidableEq Bytes32]

/-- The `Revealed` events of a request. -/
def World.reveals (w : World Bytes32) (key : RequestKey) : ℕ :=
  (w.life key).count .revealed

/-- The `RequestRefunded` events of a request: its completed refunds. -/
def World.refunds (w : World Bytes32) (key : RequestKey) : ℕ :=
  (w.life key).count .refunded

/-- The callback of a request has been started at least once. -/
def World.Called (w : World Bytes32) (key : RequestKey) : Prop :=
  .called ∈ w.life key

instance (w : World Bytes32) (key : RequestKey) : Decidable (w.Called key) :=
  inferInstanceAs (Decidable (_ ∈ _))

/-- If the call is a refund that passes its checks, then of a request whose callback has never been
started. -/
def RefundsUncalled (m : Message Bytes32) (w : World Bytes32) : Prop :=
  ∀ key, Refunding K m w key → ¬ w.Called key

/-- **The invariant**: one refund at most, of requests that were not revealed and are gone. A request
that has not been called and is not gone was not revealed. -/
structure SettledOnce (w : World Bytes32) (key : RequestKey) : Prop where
  once : w.refunds key ≤ 1
  exclusive : 0 < w.refunds key → w.reveals key = 0
  gone : ¬ w.Gone K key → w.refunds key = 0
  uncalled : ¬ w.Gone K key → ¬ w.Called key → w.reveals key = 0

/-- The life of a request that is gone is over, and one that was called is not refunded. -/
structure KeepsSettled (w w' : World Bytes32) (key : RequestKey) : Prop where
  gone : w.Gone K key → w'.Gone K key ∧ w'.life key = w.life key
  called : w.Called key → w'.Called key ∧ w'.refunds key = w.refunds key

section Invariant

variable {K} {m : Message Bytes32} {w w' w₁ w₂ w₃ : World Bytes32} {pending : Pending Bytes32}
variable {result : CallResult} {key : RequestKey}

theorem reveals_congr (same : w'.life key = w.life key) : w'.reveals key = w.reveals key := by
  unfold World.reveals
  rw [same]

theorem refunds_congr (same : w'.life key = w.life key) : w'.refunds key = w.refunds key := by
  unfold World.refunds
  rw [same]

theorem called_congr (same : w'.life key = w.life key) : w'.Called key ↔ w.Called key := by
  unfold World.Called
  rw [same]

/-- What another mark does to the counts. -/
theorem refunds_of_cons {mark : Mark} (life : w'.life key = mark :: w.life key)
    (other : mark ≠ .refunded) : w'.refunds key = w.refunds key := by
  unfold World.refunds
  rw [life, List.count_cons_of_ne other]

theorem reveals_of_cons {mark : Mark} (life : w'.life key = mark :: w.life key)
    (other : mark ≠ .revealed) : w'.reveals key = w.reveals key := by
  unfold World.reveals
  rw [life, List.count_cons_of_ne other]

theorem called_of_cons {mark : Mark} (life : w'.life key = mark :: w.life key)
    (called : w.Called key) : w'.Called key := by
  unfold World.Called
  rw [life]
  exact List.mem_cons_of_mem _ called

theorem SettledOnce.of_life (settled : SettledOnce K w key) (keeps : Keeps K w w')
    (same : w'.life key = w.life key) : SettledOnce K w' key where
  once := by
    rw [refunds_congr same]
    exact settled.once
  exclusive := by
    rw [refunds_congr same, reveals_congr same]
    exact settled.exclusive
  gone := by
    intro alive
    rw [refunds_congr same]
    exact settled.gone fun gone => alive (gone.mono keeps)
  uncalled := by
    intro alive uncalled
    rw [reveals_congr same]
    exact settled.uncalled (fun gone => alive (gone.mono keeps))
      fun called => uncalled ((called_congr same).mpr called)

theorem KeepsSettled.of_life (keeps : Keeps K w w') (same : w'.life key = w.life key) :
    KeepsSettled K w w' key where
  gone gone := ⟨gone.mono keeps, same⟩
  called called := ⟨(called_congr same).mpr called, refunds_congr same⟩

theorem KeepsSettled.trans (first : KeepsSettled K w w₁ key) (second : KeepsSettled K w₁ w₂ key) :
    KeepsSettled K w w₂ key where
  gone := by
    intro gone
    obtain ⟨gone₁, same⟩ := first.gone gone
    obtain ⟨gone₂, same₂⟩ := second.gone gone₁
    exact ⟨gone₂, same₂.trans same⟩
  called := by
    intro called
    obtain ⟨called₁, same⟩ := first.called called
    obtain ⟨called₂, same₂⟩ := second.called called₁
    exact ⟨called₂, same₂.trans same⟩

/-- A request that is revealed for good, and was not refunded before. -/
theorem SettledOnce.of_unrefunded (none : w.refunds key = 0)
    (uncalled : ¬ w.Gone K key → ¬ w.Called key → w.reveals key = 0) : SettledOnce K w key where
  once := by omega
  exclusive some := by omega
  gone _ := none
  uncalled := uncalled

/-- A request that is refunded for good, and was not revealed before. -/
theorem SettledOnce.of_refunded (one : w.refunds key = 1) (unrevealed : w.reveals key = 0)
    (gone : w.Gone K key) : SettledOnce K w key where
  once := Nat.le_of_eq one
  exclusive _ := unrevealed
  gone alive := absurd gone alive
  uncalled _ _ := unrevealed

theorem Finishes.settledOnce (sound : Sound K w) (settled : SettledOnce K w key)
    (guard : RefundsUncalled K m w) (finishes : Finishes K m w w') (evolves : Evolves K w w') :
    SettledOnce K w' key ∧ KeepsSettled K w w' key := by
  rcases finishes.life_cases sound key with same | ⟨req, found, gone', marked⟩
  · exact ⟨settled.of_life evolves.toKeeps same, .of_life evolves.toKeeps same⟩
  · have alive : ¬ w.Gone K key := not_gone_of_found found
    have none := settled.gone alive
    rcases marked with revealed | ⟨call, refunded⟩
    · have none' : w'.refunds key = 0 := (refunds_of_cons revealed (by decide)).trans none
      refine ⟨.of_unrefunded none' fun alive' => absurd gone' alive', fun gone => absurd gone alive,
        fun called => ⟨called_of_cons revealed called, none'.trans none.symm⟩⟩
    · have uncalled := guard _ call
      have unrevealed : w'.reveals key = 0 :=
        (reveals_of_cons refunded (by decide)).trans (settled.uncalled alive uncalled)
      have one : w'.refunds key = 1 := by
        unfold World.refunds
        rw [refunded, List.count_cons_self]
        exact congrArg (· + 1) none
      exact ⟨.of_refunded one unrevealed gone', fun gone => absurd gone alive,
        fun called => absurd called uncalled⟩

theorem Calls.settledOnce (sound : Sound K w) (settled : SettledOnce K w key)
    (calls : Calls K m w w₁ pending) : SettledOnce K w₁ key := by
  have keeps := (calls.advances sound).2.toKeeps
  by_cases target : pending.target = some key
  · rcases calls.life_cases target with ⟨_, _, same⟩ | ⟨_, called⟩
    · exact settled.of_life keeps same
    · obtain ⟨req, found⟩ := calls.found target
      have none : w₁.refunds key = 0 :=
        (refunds_of_cons called (by decide)).trans (settled.gone (not_gone_of_found found))
      refine .of_unrefunded none fun _ uncalled => absurd ?_ uncalled
      unfold World.Called
      rw [called]
      exact List.mem_cons_self
  · exact settled.of_life keeps (calls.life_other target)

/-- A call that is not about the request. -/
theorem whole_settledOnce_other (sound : Sound K w) (calls : Calls K m w w₁ pending)
    (sound₂ : Sound K w₂) (settled₂ : SettledOnce K w₂ key) (kept : KeepsSettled K w₁ w₂ key)
    (resumes : Resumes K result w₂ pending w₃) (other : pending.target ≠ some key) :
    SettledOnce K w₃ key ∧ KeepsSettled K w w₃ key := by
  have first := (calls.advances sound).2.toKeeps
  have second := (resumes.keeps sound₂).2
  have same₃ := resumes.life_other other
  refine ⟨settled₂.of_life second same₃, ?_⟩
  have kept₁ : KeepsSettled K w w₁ key := .of_life first (calls.life_other other)
  exact kept₁.trans (kept.trans (.of_life second same₃))

/-- A refund: its request was not called, is gone before the fee is sent, and stays so. -/
theorem whole_settledOnce_refund (sound : Sound K w) (settled : SettledOnce K w key)
    (guard : RefundsUncalled K m w) (calls : Calls K m w w₁ pending) (sound₂ : Sound K w₂)
    (kept : KeepsSettled K w₁ w₂ key) (resumes : Resumes K result w₂ pending w₃)
    (target : pending.target = some key) (refunds : ¬ pending.Reveals) :
    SettledOnce K w₃ key ∧ KeepsSettled K w w₃ key := by
  obtain ⟨req, found⟩ := calls.found target
  have alive : ¬ w.Gone K key := not_gone_of_found found
  have limited : ¬ pending.Limited := by
    cases pending with
    | limited _ _ _ _ _ _ _ => exact absurd trivial refunds
    | _ => exact not_false
  rcases calls.life_cases target with ⟨_, call, same₁⟩ | ⟨reveals, _⟩
  · have uncalled := guard _ call
    obtain ⟨gone₂, same₂⟩ := kept.gone (calls.gone sound target limited)
    rcases resumes.life_cases target with ⟨_, refunded⟩ | ⟨reveals, _⟩
    · have unrevealed : w₃.reveals key = 0 := by
        rw [reveals_of_cons refunded (by decide), reveals_congr same₂, reveals_congr same₁]
        exact settled.uncalled alive uncalled
      have one : w₃.refunds key = 1 := by
        unfold World.refunds
        rw [refunded, List.count_cons_self, same₂, same₁]
        exact congrArg (· + 1) (settled.gone alive)
      have gone₃ := gone₂.mono (resumes.keeps sound₂).2
      exact ⟨.of_refunded one unrevealed gone₃, fun gone => absurd gone alive,
        fun called => absurd called uncalled⟩
    · exact absurd reveals refunds
  · exact absurd reveals refunds

/-- A reveal: its request is marked as called before the callback, and not refunded after that. -/
theorem whole_settledOnce_reveal (settled : SettledOnce K w key) (calls : Calls K m w w₁ pending)
    (kept : KeepsSettled K w₁ w₂ key) (resumes : Resumes K result w₂ pending w₃)
    (target : pending.target = some key) (reveals : pending.Reveals) :
    SettledOnce K w₃ key ∧ KeepsSettled K w w₃ key := by
  obtain ⟨req, found⟩ := calls.found target
  have alive : ¬ w.Gone K key := not_gone_of_found found
  have none := settled.gone alive
  rcases calls.life_cases target with ⟨refunds, _⟩ | ⟨_, called⟩
  · exact absurd reveals refunds
  · have called₁ : w₁.Called key := by
      unfold World.Called
      rw [called]
      exact List.mem_cons_self
    obtain ⟨called₂, same₂⟩ := kept.called called₁
    have none₂ : w₂.refunds key = 0 := by
      rw [same₂, refunds_of_cons called (by decide), none]
    have after : w₃.refunds key = 0 ∧ w₃.Called key := by
      unfold World.refunds World.Called
      rcases resumes.life_cases target with ⟨refunds, _⟩ | ⟨_, ⟨_, revealed⟩ | ⟨_, revealed⟩⟩
      · exact absurd reveals refunds
      · rw [revealed, List.count_cons_of_ne (by decide), List.count_cons_of_ne (by decide)]
        exact ⟨none₂, List.mem_cons_of_mem _ (List.mem_cons_of_mem _ called₂)⟩
      · rw [revealed, List.count_cons_of_ne (by decide)]
        exact ⟨none₂, List.mem_cons_of_mem _ called₂⟩
    refine ⟨.of_unrefunded after.1 fun _ uncalled => absurd after.2 uncalled,
      fun gone => absurd gone alive, fun _ => ⟨after.2, ?_⟩⟩
    rw [after.1, none]

/-- **The obligations of settlement.** -/
theorem settlement_rely :
    CallStack.Rely (dice K) (RefundsUncalled K) (Sound K) (Evolves K)
      (fun w => ∀ key, SettledOnce K w key) (fun w w' => ∀ key, KeepsSettled K w w' key) := by
  refine rely_of_halves ?_ ?_ ?_ ?_ ?_ ?_
  · exact fun w key => .of_life (Evolves.refl w).toKeeps rfl
  · exact fun u v w first second key => (first key).trans (second key)
  · intro m w w' sound settled guard finishes _ evolves
    have both := fun key => finishes.settledOnce sound (settled key) guard evolves
    exact ⟨fun key => (both key).1, fun key => (both key).2⟩
  · exact fun sound settled _ calls _ key => calls.settledOnce sound (settled key)
  · intro m w w₁ pending result w₂ w₃ sound settled guard calls _ _ sound₂ settled₂ _ kept resumes
      _ _
    have both : ∀ key, SettledOnce K w₃ key ∧ KeepsSettled K w w₃ key := by
      intro key
      by_cases target : pending.target = some key
      · by_cases reveals : pending.Reveals
        · exact whole_settledOnce_reveal (settled key) calls (kept key) resumes target reveals
        · exact whole_settledOnce_refund sound (settled key) guard calls sound₂ (kept key) resumes
            target reveals
      · exact whole_settledOnce_other sound calls sound₂ (settled₂ key) (kept key) resumes target
    exact ⟨fun key => (both key).1, fun key => (both key).2⟩
  · intro t w settled
    have evolves : Evolves K w (mine t w) :=
      .of_same rfl (World.countsUp_of_same rfl) (List.suffix_refl _)
    exact ⟨fun key => (settled key).of_life evolves.toKeeps rfl,
      fun key => .of_life evolves.toKeeps rfl⟩

theorem constructor_settledOnce {d : Deployment Bytes32} {w : World Bytes32}
    (deployed : constructor K d = .ok w) (key : RequestKey) : SettledOnce K w key := by
  have life := constructor_life deployed key
  have none : w.refunds key = 0 := by
    unfold World.refunds
    rw [life]
    rfl
  refine .of_unrefunded none fun _ _ => ?_
  unfold World.reveals
  rw [life]
  rfl

/-- **One settlement.** In every run, with whatever nesting of calls, in which only requests whose
callback was never started pass the checks of a refund: a request that was refunded was not revealed,
at whatever time, and no request is refunded twice. -/
theorem settled_once {c : Config Bytes32} (reach : Reachable K (RefundsUncalled K) c)
    (provider : Address) (n : ℕ) :
    (0 < c.world.refunds (provider, n) → c.world.reveals (provider, n) = 0) ∧
      c.world.refunds (provider, n) ≤ 1 := by
  have settled := (reach.holds settlement_rely constructor_settledOnce).1.2 (provider, n)
  exact ⟨settled.exclusive, settled.once⟩

end Invariant

namespace Sample

/-- A refund of the first request, and a reveal of the second. -/
def separateRun : List (Action Sym) :=
  [limitGas, request 1, request 2, wait 6, fromUser (.refundRequest provider 1), succeed, reveal 2,
    succeed]

/-- A request is refunded by its requester while its callback runs, and then the callback succeeds. -/
def refundedInCallbackRun : List (Action Sym) :=
  [limitGas, request 1, wait 6, reveal 1, fromUser (.refundRequest provider 1), succeed, succeed]

/-- The callback of a request fails, and then the request is refunded. -/
def refundedAfterFailureRun : List (Action Sym) :=
  [limitGas, request 1, reveal 1, failed, wait 6, fromUser (.refundRequest provider 1), succeed]

theorem separateRun_refundsUncalled :
    Reachable symbolic (RefundsUncalled symbolic) (after separateRun) := by
  refine ⟨deployment, world, deployed, .of_run _ ⟨?_, ?_, ?_, trivial, ?_, trivial, ?_, trivial,
    trivial⟩⟩
  all_goals
    rintro ⟨provider, n⟩ ⟨call, _⟩
    cases call
  decide +kernel

end Sample

theorem settled_once_separateRun :
    (0 < (Sample.after Sample.separateRun).world.refunds (Sample.provider, 1) →
        (Sample.after Sample.separateRun).world.reveals (Sample.provider, 1) = 0) ∧
      (Sample.after Sample.separateRun).world.refunds (Sample.provider, 1) ≤ 1 :=
  settled_once Sample.separateRun_refundsUncalled _ _

/-- **Both the random number and the fee**: a request is refunded after a callback that failed, or in
the middle of one that succeeds. -/
theorem refunded_and_revealed :
    (∃ c, Reachable symbolic anyCall c ∧ c.frames = [] ∧
      0 < c.world.refunds (Sample.provider, 1) ∧ 0 < c.world.reveals (Sample.provider, 1)) ∧
    (∃ c, Reachable symbolic anyCall c ∧ c.frames = [] ∧
      0 < c.world.refunds (Sample.provider, 1) ∧ 0 < c.world.reveals (Sample.provider, 1) ∧
      .delivered ∈ c.world.life (Sample.provider, 1)) := by
  refine ⟨⟨Sample.after Sample.refundedAfterFailureRun, Sample.reachable _, rfl, ?_, ?_⟩,
    ⟨Sample.after Sample.refundedInCallbackRun, Sample.reachable _, rfl, ?_, ?_, ?_⟩⟩
  all_goals decide +kernel

end Dice
