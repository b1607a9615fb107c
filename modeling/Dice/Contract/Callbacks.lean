/-
**The callback state machine.**

* `World.Shut` — a request that no reveal can open: it is gone, or its gas-limited callback is running.
  Whole calls keep requests shut and make no delivery to them (`deliveries_rely`).
* `reveal_reverts_of_shut` — `revealWithCallback` on such a request reverts.
* `callback_states` — in every run: no request is in progress when no call is open, a request whose
  gas-limited callback is running is shut, and no request has two successful callbacks.
-/

import Dice.Contract.Lives

set_option linter.unusedSectionVars false

namespace Dice

variable {Bytes32 : Type} (K : Keccak Bytes32) [DecidableEq Bytes32]

/-- A used number whose request, if active, is in progress. -/
def World.Shut (w : World Bytes32) (key : RequestKey) : Prop :=
  w.Used key ∧ ∀ req, w.state.lookup K key = some req → req.callbackStatus = .inProgress

/-- The successful callbacks of a request. -/
def World.deliveries (w : World Bytes32) (key : RequestKey) : ℕ :=
  (w.life key).count .delivered

/-- **The invariant**: one delivery at most, and none before the request is gone. -/
def DeliversOnce (w : World Bytes32) : Prop :=
  ∀ key, w.deliveries key ≤ 1 ∧ (¬ w.Gone K key → w.deliveries key = 0)

/-- Nothing is delivered to a request that is shut, and it stays shut. -/
def KeepsShut (w w' : World Bytes32) : Prop :=
  ∀ key, w.Shut K key → w'.Shut K key ∧ w'.deliveries key = w.deliveries key

section Invariant

variable {K} {m : Message Bytes32} {w w' w₁ w₂ w₃ : World Bytes32} {pending : Pending Bytes32}
variable {result : CallResult} {key : RequestKey}

theorem World.Gone.shut (gone : w.Gone K key) : w.Shut K key := by
  refine ⟨gone.1, fun req found => ?_⟩
  rw [gone.2] at found
  cases found

theorem Advances.shut (advances : Advances K w w') (shut : w.Shut K key) : w'.Shut K key := by
  refine ⟨shut.1.mono advances.counter, fun req' found' => ?_⟩
  obtain ⟨req, found, _⟩ := advances.request shut.1 found'
  have inProgress := shut.2 req found
  rw [advances.locked shut.1 found inProgress found']
  exact inProgress

/-- A request that a reveal was accepted for was not shut. -/
theorem not_shut_of_status {req : Request Bytes32} (found : w.state.lookup K key = some req)
    (status : req.callbackStatus = .notStarted ∨ req.callbackStatus = .failed) :
    ¬ w.Shut K key := by
  intro shut
  have inProgress := shut.2 req found
  rcases status with first | retry
  · rw [inProgress] at first
    cases first
  · rw [inProgress] at retry
    cases retry

/-- What the rest of an operation may be invoked on: the request it is about was open when it began,
unless it is a refund, and is shut when the call is made. -/
theorem Calls.opens (sound : Sound K w) (calls : Calls K m w w₁ pending)
    (target : pending.target = some key) (reveals : pending.Reveals) :
    ¬ w.Shut K key ∧ w₁.Shut K key := by
  cases calls with
  | @limited provider n _ _ _ _ v req _ checks status _ =>
    cases target
    refine ⟨not_shut_of_status checks.found (.inl status), ?_, ?_⟩
    · exact (sound.used checks.found).mono (w.accepted_countsUp provider n v)
    · intro req₁ found₁
      obtain ⟨sound', _⟩ := accepted_evolves sound provider n v
      have read : (w.accepted provider n v).state.read (findRequest K w.state provider n) = req :=
        read_findRequest checks.found
      rcases found_of_status sound'.wf rfl found₁ with ⟨_, _, written⟩ | ⟨dead, _⟩
      · rw [written]
      · rw [read] at dead
        exact absurd (SlotTable.Scheme.lookup_key checks.found) dead
  | unlimited call checks status code =>
    have gone₁ := Calls.gone sound (.unlimited call checks status code) target nofun
    cases target
    exact ⟨not_shut_of_status checks.found (status.imp_left And.left), gone₁.shut⟩
  | refund _ _ _ _ _ => exact absurd reveals not_false
  | withdrawal _ _ _ _ => cases target
  | foreign _ => cases target

/-- **After a successful message call** the request that the call is about is gone. -/
theorem whole_gone (sound : Sound K w) (calls : Calls K m w w₁ pending)
    (target : pending.target = some key) (sound₂ : Sound K w₂) (between : Keeps K w₁ w₂)
    (resumes : Resumes K result w₂ pending w₃) (success : result.success = true) :
    w₃.Gone K key := by
  by_cases limited : pending.Limited
  · cases resumes with
    | @limitedDelivered ref provider n _ _ _ _ _ _ _ =>
      cases target
      obtain ⟨req, found⟩ := calls.found rfl
      have used₂ : w₂.Used (provider, n) :=
        ((sound.used found).mono (calls.advances sound).2.counter).mono between.counter
      have sound' : Sound K (w₂.withStatus ref .notStarted) := sound₂.withStatus ref (by decide)
      exact gone_of_removed sound'.wf rfl used₂
    | limitedFailed failure _ _ _ =>
      rw [success] at failure
      cases failure
    | _ => cases limited
  · exact ((calls.gone sound target limited).mono between).mono (resumes.keeps sound₂).2

theorem Finishes.deliveries (sound : Sound K w) (finishes : Finishes K m w w') (key : RequestKey) :
    w'.deliveries key = w.deliveries key := by
  unfold World.deliveries
  rcases finishes.life_cases sound key with same | ⟨_, _, _, revealed | ⟨_, refunded⟩⟩
  · rw [same]
  · rw [revealed]
    exact List.count_cons_of_ne (by decide)
  · rw [refunded]
    exact List.count_cons_of_ne (by decide)

theorem Calls.deliveries (calls : Calls K m w w₁ pending) (key : RequestKey) :
    w₁.deliveries key = w.deliveries key := by
  unfold World.deliveries
  by_cases target : pending.target = some key
  · rcases calls.life_cases target with ⟨_, _, same⟩ | ⟨_, called⟩
    · rw [same]
    · rw [called]
      exact List.count_cons_of_ne (by decide)
  · rw [calls.life_other target]

/-- The rest of a call delivers to its own request, once, if it is a reveal whose callback
succeeded. -/
theorem Resumes.deliveries (resumes : Resumes K result w₂ pending w₃) (key : RequestKey) :
    w₃.deliveries key = w₂.deliveries key ∨
      result.success = true ∧ pending.target = some key ∧ pending.Reveals ∧
        w₃.deliveries key = w₂.deliveries key + 1 := by
  unfold World.deliveries
  by_cases target : pending.target = some key
  · rcases resumes.life_cases target with ⟨_, refunded⟩ | ⟨reveals, both | both⟩
    · rw [refunded]
      exact .inl (List.count_cons_of_ne (by decide))
    · obtain ⟨success, delivered⟩ := both
      refine .inr ⟨success, target, reveals, ?_⟩
      rw [delivered, List.count_cons_of_ne (by decide), List.count_cons_self]
    · rw [both.2]
      exact .inl (List.count_cons_of_ne (by decide))
  · rw [resumes.life_other target]
    exact .inl rfl

/-- **The obligations of deliveries.** -/
theorem deliveries_rely (guard : Message Bytes32 → World Bytes32 → Prop) :
    CallStack.Rely (dice K) guard (Sound K) (Evolves K) (DeliversOnce K) (KeepsShut K) := by
  -- a half without a delivery keeps the invariant, since no request comes back
  have keep : ∀ {u v : World Bytes32}, Keeps K u v → (∀ key, v.deliveries key = u.deliveries key) →
      DeliversOnce K u → DeliversOnce K v := by
    intro u v keeps same once key
    rw [same key]
    exact ⟨(once key).1, fun alive => (once key).2 fun gone => alive (gone.mono keeps)⟩
  refine rely_of_halves ?_ ?_ ?_ ?_ ?_ ?_
  · exact fun w key shut => ⟨shut, rfl⟩
  · intro u v w first second key shut
    obtain ⟨shut', same⟩ := first key shut
    obtain ⟨shut'', same'⟩ := second key shut'
    exact ⟨shut'', same'.trans same⟩
  · intro m w w' sound once _ finishes _ evolves
    exact ⟨keep evolves.toKeeps (finishes.deliveries sound) once,
      fun key shut => ⟨evolves.toAdvances.shut shut, finishes.deliveries sound key⟩⟩
  · intro m w w₁ pending sound once _ calls _
    exact keep (calls.advances sound).2.toKeeps calls.deliveries once
  · intro m w w₁ pending result w₂ w₃ sound once _ calls _ _ sound₂ once₂ between kept resumes _
      evolves
    refine ⟨fun key => ?_, fun key shut => ⟨evolves.toAdvances.shut shut, ?_⟩⟩
    · have alive : ¬ w₃.Gone K key → ¬ w₂.Gone K key :=
        fun alive gone => alive (gone.mono (resumes.keeps sound₂).2)
      rcases resumes.deliveries key with same | ⟨success, target, reveals, delivered⟩
      · rw [same]
        exact ⟨(once₂ key).1, fun live => (once₂ key).2 (alive live)⟩
      · obtain ⟨opened, shut₁⟩ := calls.opens sound target reveals
        have none_before : w.deliveries key = 0 := (once key).2 fun gone => opened gone.shut
        have none₂ : w₂.deliveries key = 0 := by
          rw [(kept key shut₁).2, calls.deliveries key, none_before]
        have gone := whole_gone sound calls target sound₂ between.toKeeps resumes success
        exact ⟨by omega, fun live => absurd gone live⟩
    · have shut₁ := (calls.advances sound).2.shut shut
      rcases resumes.deliveries key with same | ⟨_, target, reveals, _⟩
      · rw [same, (kept key shut₁).2, calls.deliveries key]
      · exact absurd shut (calls.opens sound target reveals).1
  · exact fun once => ⟨once, fun key shut => ⟨shut, rfl⟩⟩

theorem constructor_deliversOnce {d : Deployment Bytes32} {w : World Bytes32}
    (deployed : constructor K d = .ok w) : DeliversOnce K w := by
  intro key
  have none : w.deliveries key = 0 := by
    unfold World.deliveries
    rw [constructor_life deployed]
    rfl
  rw [none]
  exact ⟨Nat.zero_le _, fun _ => rfl⟩

/-! ### Nested reveals -/

/-- `revealWithCallback` gets past its checks only for a request that waits for a callback. -/
theorem reveal_reverts_of_shut {provider : Address} {n : ℕ} (shut : w.Shut K (provider, n))
    (msg : Msg) (u v : Bytes32) (startingGas endingGas len : ℕ) :
    ∃ error, start K ⟨msg, .revealWithCallback provider n u v startingGas endingGas len⟩ w =
      .reverted error := by
  unfold start
  split
  · exact ⟨_, rfl⟩
  · show ∃ error, revealWithCallback K w provider n u v startingGas endingGas len = .reverted error
    unfold revealWithCallback
    cases checked : revealWithCallbackChecks K w provider n u v with
    | error error => exact ⟨error, rfl⟩
    | ok passed =>
      obtain ⟨w', ref, random⟩ := passed
      obtain ⟨req, checks, status, _⟩ := revealWithCallbackChecks_ok checked
      exact absurd shut (not_shut_of_status checks.found status)

/-- The request of every open gas-limited callback is shut. -/
theorem shut_of_limited {guard : Message Bytes32 → World Bytes32 → Prop} {c : Config Bytes32}
    (reach : Reachable K guard c) {frame : CallStack.Frame (World Bytes32) (Pending Bytes32)}
    (member : frame ∈ c.frames) {ref : RequestRef Bytes32} {provider : Address} {n gas : ℕ}
    {u v random : Bytes32} (pending : frame.pending = .limited ref provider n u v random gas) :
    c.world.Shut K (provider, n) := by
  obtain ⟨_, _, _, nested⟩ := reach.nested
  obtain ⟨atEntry, _, operation, _, started⟩ := nested.frame frame member
  have calls := start_calling started
  have target : frame.pending.target = some (provider, n) := by
    rw [pending]
    rfl
  have reveals : frame.pending.Reveals := by
    rw [pending]
    trivial
  have during := nested.during (fun _ _ _ => Advances.trans) Evolves.toAdvances
    (fun sound started => ((start_calling started).advances sound).2) frame member
  exact during.shut (calls.opens atEntry target reveals).2

/-- **The callback state machine**, in every run with whatever nesting of calls. (a) When no call is
open, every active request, in its slot or in the overflow, waits for its first or for another
attempt. (b) While the gas-limited callback of a request is running, at whatever depth, every
`revealWithCallback` on it reverts. (c) No request has more than one successful callback. -/
theorem callback_states {c : Config Bytes32} (reach : Reachable K anyCall c) :
    (c.frames = [] → ∀ ref, isActive (c.world.state.read ref) = true →
      (c.world.state.read ref).callbackStatus = .notStarted ∨
        (c.world.state.read ref).callbackStatus = .failed) ∧
    (∀ frame ∈ c.frames, ∀ ref provider n u v random gas,
      frame.pending = .limited ref provider n u v random gas →
      ∀ msg u' v' startingGas endingGas len, ∃ error,
        start K ⟨msg, .revealWithCallback provider n u' v' startingGas endingGas len⟩ c.world =
          .reverted error) ∧
    (∀ provider n, c.world.history.count (.delivered provider n) ≤ 1) := by
  refine ⟨fun idle ref active => ?_, ?_, fun provider n => ?_⟩
  · obtain ⟨d, origin, deployed, nested⟩ := reach.nested
    have sound := reach.sound
    rw [idle] at nested
    have live : (c.world.state.read ref).key = some ((c.world.state.read ref).provider,
        (c.world.state.read ref).sequenceNumber) := if_neg ((isActive_iff _).mp active)
    have found := SlotTable.Scheme.lookup_of_live (S := requestScheme K) sound.wf live
    have waits := sound.withCallback found
    have free : (c.world.state.read ref).callbackStatus ≠ .inProgress := by
      intro inProgress
      obtain ⟨req, before, _⟩ := nested.idle.settled found inProgress
      rw [constructor_lookup deployed] at before
      cases before
    cases status : (c.world.state.read ref).callbackStatus with
    | notNecessary => exact absurd status waits
    | notStarted => exact .inl rfl
    | inProgress => exact absurd status free
    | failed => exact .inr rfl
  · intro frame member ref provider n u v random gas pending msg u' v' startingGas endingGas len
    exact reveal_reverts_of_shut (shut_of_limited reach member pending) msg u' v' startingGas
      endingGas len
  · have once := (reach.holds (deliveries_rely anyCall) constructor_deliversOnce).1.2
    have counted : c.world.history.count (.delivered provider n) =
        c.world.deliveries (provider, n) := by
      unfold World.deliveries World.life
      rw [List.count_filterMap]
      refine List.countP_congr fun entry _ => ?_
      rw [beq_iff_eq, beq_iff_eq, Entry.mark_eq_delivered]
    rw [counted]
    exact (once _).1

end Invariant

namespace Sample

/-- The callback of the first request succeeds, and that of the second is running. -/
def busyRun : List (Action Sym) := [limitGas, request 1, request 2, reveal 1, succeed, reveal 2]

/-- The callback of the second request has failed. -/
def failedRun : List (Action Sym) := busyRun ++ [failed]

end Sample

theorem callback_states_busyRun :
    (∃ error, start symbolic ⟨Sample.msg Sample.provider 0 Sample.provider_ne_zero, .revealWithCallback
        Sample.provider 2 (Sample.contribution 2) (Sample.value 2) 1000000 0 1⟩
        (Sample.after Sample.busyRun).world = .reverted error) ∧
      (Sample.after Sample.busyRun).world.history.count (.delivered Sample.provider 1) ≤ 1 ∧
      (((Sample.after Sample.failedRun).world.state.read (.slot Sample.slot)).callbackStatus =
          .notStarted ∨
        ((Sample.after Sample.failedRun).world.state.read (.slot Sample.slot)).callbackStatus =
          .failed) := by
  obtain ⟨_, nested, once⟩ := callback_states (Sample.reachable Sample.busyRun)
  obtain ⟨idle, _, _⟩ := callback_states (Sample.reachable Sample.failedRun)
  refine ⟨?_, once _ _, idle rfl _ (by decide +kernel)⟩
  exact nested _ List.mem_cons_self _ _ _ _ _ _ _ rfl _ _ _ _ _ _

end Dice
