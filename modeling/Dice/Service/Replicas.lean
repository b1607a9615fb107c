/-
**Several replicas of the keeper.**

An event is assigned to one replica by its sequence number. The others wait, and then look whether
the request is still open.

* `Replicas` — a group of replicas, one for each identifier.
* `Takes` — a replica takes an event: it goes on to the submission of a revelation.
* `skips_iff_handled` — what a backup sees of the chain: it leaves an event alone exactly if the
  request was handled at the block that it read.
* `replicas_cover` — of an event whose number the chains have, one replica takes it whatever the node
  answers, and only one is sure to; each of the others takes it exactly if the node does not answer or the
  request was not handled.

A request whose callback failed counts as handled, so no backup makes the second attempt.
-/

import Dice.Contract.Failures
import Dice.Service.Disclosure

set_option linter.unusedSectionVars false

namespace Dice

variable {Bytes32 : Type}

/-- **A group of replicas** of one provider, which all watch the same chain. -/
structure Replicas (Bytes32 : Type) where
  totalReplicas : ℕ
  providerAddress : Address
  replica : Fin totalReplicas → ProcessParams Bytes32
  config : ∀ i, (replica i).replicaConfig = some ⟨i, totalReplicas, i.isLt⟩
  own : ∀ i, (replica i).providerAddress = providerAddress

/-- The replica that an event is assigned to. -/
def Replicas.IsPrimary (replicas : Replicas Bytes32) (event : RequestedV2Event Bytes32)
    (i : Fin replicas.totalReplicas) : Prop :=
  event.sequenceNumber % replicas.totalReplicas = i

/-- The replica takes the event, of which it asks the node when it is a backup: there is a revelation
that it submits. -/
def Takes (K : Keccak Bytes32) (params : ProcessParams Bytes32) (event : RequestedV2Event Bytes32)
    (backup : Except RpcError (Option (Request Bytes32))) : Prop :=
  ∃ revelation, submittedRevelation K params event backup = some revelation

/-- Every replica has a chain with this number. -/
def Replicas.Know (K : Keccak Bytes32) (replicas : Replicas Bytes32) (sequenceNumber : ℕ) : Prop :=
  ∀ i, ∃ revelation, (replicas.replica i).state.reveal (chainHash K) sequenceNumber = .ok revelation

section Replicas

variable {K : Keccak Bytes32} {params : ProcessParams Bytes32} {event : RequestedV2Event Bytes32}
variable {replicas : Replicas Bytes32} {i : Fin replicas.totalReplicas}

/-- A replica of the provider that has the number takes the event, unless it leaves it alone. -/
theorem Replicas.takes_iff (own : replicas.providerAddress = event.providerAddress)
    (known : replicas.Know K event.sequenceNumber)
    (backup : Except RpcError (Option (Request Bytes32))) :
    Takes K (replicas.replica i) event backup ↔ (replicas.replica i).skips event backup = false := by
  have mine : (replicas.replica i).providerAddress = event.providerAddress := (replicas.own i).trans own
  obtain ⟨revelation, revealed⟩ := known i
  unfold Takes submittedRevelation
  rw [if_neg (not_not.mpr mine), revealed]
  cases (replicas.replica i).skips event backup with
  | true => simp
  | false => simp [Except.toOption]

/-- The primary does not look. -/
theorem skips_primary (primary : replicas.IsPrimary event i)
    (backup : Except RpcError (Option (Request Bytes32))) :
    (replicas.replica i).skips event backup = false := by
  unfold ProcessParams.skips
  rw [replicas.config i]
  exact if_pos primary

/-- A backup reads the request. -/
theorem skips_backup (other : ¬ replicas.IsPrimary event i)
    (backup : Except RpcError (Option (Request Bytes32))) :
    (replicas.replica i).skips event backup = true ↔ ∃ read, backup = .ok read ∧
      ∀ req, read = some req → req.callbackStatus ≠ .notStarted := by
  unfold ProcessParams.skips
  rw [replicas.config i]
  simp only [if_neg (show ¬ event.sequenceNumber % replicas.totalReplicas = i by exact other)]
  cases backup with
  | error error => simp
  | ok read =>
    cases read with
    | none => simp
    | some req => simp

variable [DecidableEq Bytes32] {chain : Chain K} {asked : ℕ}

/-- **What a backup sees**: it leaves the event alone exactly if the request was handled. -/
theorem skips_iff_handled (requested : chain.RequestedIn event.key event.logMeta.blockNumber)
    (after : event.logMeta.blockNumber ≤ asked) (other : ¬ replicas.IsPrimary event i) :
    (replicas.replica i).skips event
        (.ok (getRequestV2 K (chain.atBlock asked) event.providerAddress event.sequenceNumber)) =
          true ↔ (chain.atBlock asked).Handled K event.key := by
  have reach : Reachable K anyCall ⟨chain.atBlock asked, []⟩ :=
    Chain.block_reachable (Nat.le_trans requested.deployed after)
  rw [skips_backup other, handled_iff reach rfl (requested.made after)]
  constructor
  · rintro ⟨read, answer, started⟩ req found
    cases answer
    refine started req ?_
    rw [getRequestV2_eq reach.sound]
    exact found
  · intro started
    refine ⟨_, rfl, fun req found => started req ?_⟩
    rwa [getRequestV2_eq reach.sound] at found

/-- **The replicas cover every event.** In every run of the contract on every chain, for an event of
the provider that is on the chain and whose number the replicas have: exactly one replica takes it whatever
the node answers. Each of the others takes it if the node does not answer after the delay; if the node
answers at any block from the event's on, the replica takes it exactly if the request was not handled by
then. -/
theorem replicas_cover (replicas : Replicas Bytes32) (event : RequestedV2Event Bytes32)
    (requested : chain.RequestedIn event.key event.logMeta.blockNumber)
    (own : replicas.providerAddress = event.providerAddress)
    (known : replicas.Know K event.sequenceNumber) (replicated : 0 < replicas.totalReplicas) :
    ∃ primary, replicas.IsPrimary event primary ∧
      (∀ i, (∀ backup, Takes K (replicas.replica i) event backup) ↔ i = primary) ∧
      ∀ i, i ≠ primary →
        (∀ error, Takes K (replicas.replica i) event (.error error)) ∧
        ∀ asked, event.logMeta.blockNumber ≤ asked →
          (Takes K (replicas.replica i) event (.ok (getRequestV2 K (chain.atBlock asked)
              event.providerAddress event.sequenceNumber)) ↔
            ¬ (chain.atBlock asked).Handled K event.key) := by
  have assigned : replicas.IsPrimary event
      ⟨event.sequenceNumber % replicas.totalReplicas, Nat.mod_lt _ replicated⟩ := rfl
  refine ⟨_, assigned, fun i => ?_, fun i different => ?_⟩
  · constructor
    · intro sure
      by_contra different
      have other : ¬ replicas.IsPrimary event i := fun same => different (Fin.ext same.symm)
      -- it leaves a request alone that it reads as gone
      refine (Bool.eq_false_iff.mp ((replicas.takes_iff own known _).mp (sure (.ok none)))) ?_
      exact (skips_backup other _).mpr ⟨none, rfl, nofun⟩
    · rintro rfl backup
      exact (replicas.takes_iff own known backup).mpr (skips_primary assigned backup)
  · have other : ¬ replicas.IsPrimary event i := fun same => different (Fin.ext same.symm)
    refine ⟨fun error => ?_, fun asked after => ?_⟩
    · rw [replicas.takes_iff own known, Bool.eq_false_iff]
      intro skips
      obtain ⟨read, answer, _⟩ := (skips_backup other _).mp skips
      cases answer
    · rw [replicas.takes_iff own known, Bool.eq_false_iff]
      exact not_congr (skips_iff_handled requested after other)

end Replicas

namespace Sample

/-- Two replicas of the service of the sample provider. -/
def replicas : Replicas Sym where
  totalReplicas := 2
  providerAddress := provider
  replica i := { processParams with replicaConfig := some ⟨i, 2, i.isLt⟩ }
  config _ := rfl
  own _ := rfl

/-- The replica that the event is not assigned to. -/
def backupReplica : Fin replicas.totalReplicas := (0 : Fin 2)

/-- The one that it is assigned to. -/
def primaryReplica : Fin replicas.totalReplicas := (1 : Fin 2)

/-- A request whose callback succeeds at once is gone, and counts as handled. -/
theorem succeeded_handled :
    (succeededCallback.atBlock 101).Handled symbolic requestedEvent.key := by
  have deployed : succeededCallback.deployedAt ≤ 101 := by decide
  refine (handled_iff (Chain.block_reachable deployed) rfl (by decide +kernel)).mpr ?_
  have gone : (succeededCallback.atBlock 101).state.lookup symbolic requestedEvent.key = none :=
    Option.isNone_iff_eq_none.mp (by decide +kernel)
  rw [gone]
  exact nofun

end Sample

/-- The second replica takes the event whatever happens. The first one takes it when the node does not
answer, and leaves it alone when it reads that the callback has succeeded. -/
theorem replicas_cover_succeeded :
    Sample.replicas.IsPrimary Sample.requestedEvent Sample.primaryReplica ∧
      (∀ backup, Takes symbolic (Sample.replicas.replica Sample.primaryReplica) Sample.requestedEvent
        backup) ∧
      Takes symbolic (Sample.replicas.replica Sample.backupReplica) Sample.requestedEvent (.error []) ∧
      ¬ Takes symbolic (Sample.replicas.replica Sample.backupReplica) Sample.requestedEvent
        (.ok (getRequestV2 symbolic (Sample.succeededCallback.atBlock 101) Sample.provider 1)) := by
  have requested : Sample.succeededCallback.RequestedIn (Sample.provider, 1) 101 :=
    ⟨_, List.mem_of_mem_head? rfl, by decide +kernel⟩
  have known : Sample.replicas.Know symbolic Sample.requestedEvent.sequenceNumber := fun _ =>
    Sample.exists_of_isOk (x := Sample.processParams.state.reveal (chainHash symbolic) 1)
      (by decide +kernel)
  obtain ⟨primary, assigned, sure, others⟩ :=
    replicas_cover Sample.replicas Sample.requestedEvent requested rfl known (by decide)
  have second : Sample.primaryReplica = primary := Fin.ext assigned
  have different : Sample.backupReplica ≠ primary := by
    rw [← second]
    exact Fin.ne_of_val_ne Nat.zero_ne_one
  obtain ⟨silent, answered⟩ := others Sample.backupReplica different
  refine ⟨rfl, (sure Sample.primaryReplica).mpr second, silent [], fun takes => ?_⟩
  exact (answered 101 le_rfl).mp takes Sample.succeeded_handled

end Dice
