/-
**A ledger of records under keys that are used once.**

* `Ledger` — what a store of such records is for: the records that are open, the keys that were entered,
  newest first, and the keys that were settled.
* `Ledger.Proper` — no key is entered twice, and exactly the keys that were entered and not settled
  have a record. Entering a new key, settling and amending an open record keep this.
-/

import Mathlib.Data.List.Basic
import Mathlib.Logic.Function.Basic

structure Ledger (K V : Type) where
  records : K → Option V
  entered : List K
  settled : List K

namespace Ledger

variable {K V : Type}

def empty : Ledger K V := ⟨fun _ => none, [], []⟩

variable [DecidableEq K]

/-- Enter a record under a new key. -/
def enter (L : Ledger K V) (key : K) (record : V) : Ledger K V where
  records := Function.update L.records key (some record)
  entered := key :: L.entered
  settled := L.settled

/-- Settle the record of a key. -/
def settle (L : Ledger K V) (key : K) : Ledger K V where
  records := Function.update L.records key none
  entered := L.entered
  settled := key :: L.settled

/-- Change the record of a key, if it is open. -/
def amend (L : Ledger K V) (key : K) (change : V → V) : Ledger K V where
  records := Function.update L.records key ((L.records key).map change)
  entered := L.entered
  settled := L.settled

/-- **A proper ledger.** -/
structure Proper (L : Ledger K V) : Prop where
  nodup : L.entered.Nodup
  settled : ∀ key ∈ L.settled, key ∈ L.entered
  records : ∀ key, L.records key ≠ none ↔ key ∈ L.entered ∧ key ∉ L.settled

variable {L : Ledger K V} {key : K}

theorem Proper.enter (proper : L.Proper) (fresh : key ∉ L.entered) (record : V) :
    (L.enter key record).Proper where
  nodup := List.nodup_cons.mpr ⟨fresh, proper.nodup⟩
  settled other member := List.mem_cons_of_mem _ (proper.settled other member)
  records := by
    intro other
    show Function.update L.records key (some record) other ≠ none ↔
      other ∈ key :: L.entered ∧ other ∉ L.settled
    by_cases same : other = key
    · subst same
      rw [Function.update_self]
      have unsettled : other ∉ L.settled := fun member => fresh (proper.settled other member)
      exact ⟨fun _ => ⟨List.mem_cons_self, unsettled⟩, fun _ => nofun⟩
    · rw [Function.update_of_ne same, proper.records other, List.mem_cons]
      constructor
      · exact fun live => ⟨.inr live.1, live.2⟩
      · rintro ⟨here | there, unsettled⟩
        · exact absurd here same
        · exact ⟨there, unsettled⟩

theorem Proper.settle (proper : L.Proper) (live : L.records key ≠ none) :
    (L.settle key).Proper where
  nodup := proper.nodup
  settled := by
    intro other member
    rcases List.mem_cons.mp member with rfl | member
    · exact ((proper.records other).mp live).1
    · exact proper.settled other member
  records := by
    intro other
    show Function.update L.records key none other ≠ none ↔
      other ∈ L.entered ∧ other ∉ key :: L.settled
    by_cases same : other = key
    · subst same
      rw [Function.update_self]
      exact ⟨fun absent => absurd rfl absent, fun both => absurd List.mem_cons_self both.2⟩
    · rw [Function.update_of_ne same, proper.records other, List.mem_cons, not_or]
      exact ⟨fun both => ⟨both.1, same, both.2⟩, fun both => ⟨both.1, both.2.2⟩⟩

theorem Proper.amend (proper : L.Proper) (change : V → V) : (L.amend key change).Proper where
  nodup := proper.nodup
  settled := proper.settled
  records := by
    intro other
    show Function.update L.records key ((L.records key).map change) other ≠ none ↔ _
    by_cases same : other = key
    · subst same
      rw [Function.update_self, ne_eq, Option.map_eq_none_iff]
      exact proper.records other
    · rw [Function.update_of_ne same]
      exact proper.records other

omit [DecidableEq K] in
theorem Proper.empty : (empty : Ledger K V).Proper where
  nodup := List.nodup_nil
  settled _ member := by cases member
  records _ := ⟨fun absent => absurd rfl absent, fun both => by cases both.1⟩

end Ledger
