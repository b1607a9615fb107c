/-
**A direct-mapped table with an overflow map, as a partial map.**

Records live in a small array of slots, indexed by a short hash of their key, or in an overflow map
indexed by a full hash. Storing a record under a new key moves a live record that occupies its slot
to the overflow map; removing a record retires it in its slot or blanks its overflow entry, and in
either case may leave stale data behind. A record is live when `keyOf` gives it a key.

* `Table.WellFormed` — every live record is in one of its two places, and no key is live twice.
* `lookup_write` — what any single write does to all lookups at once.
* `lookup_store`, `lookup_remove`, `lookup_modify` — storing, removing and modifying through a
  reference are update, erasure and modification of the partial map `lookup`, whatever keys collide.

The short hash is arbitrary; only the full hash has to be injective.
-/

import Mathlib.Logic.Function.Basic
import Mathlib.Tactic.Common

set_option linter.unusedSectionVars false

namespace SlotTable

variable {ι H K V : Type}

/-- How records are keyed, hashed and removed. -/
structure Scheme (ι H K V : Type) where
  keyOf : V → Option K
  short : K → ι
  full : K → H
  full_injective : Function.Injective full
  retire : V → V
  blank : V
  keyOf_retire : ∀ v, keyOf (retire v) = none
  keyOf_blank : keyOf blank = none

/-- A storage reference: a slot of the array or an entry of the overflow map. -/
inductive Ref (ι H : Type) where
  | slot (index : ι)
  | overflow (hash : H)
  deriving DecidableEq, Repr

structure Table (ι H V : Type) where
  slots : ι → V
  overflow : H → V

namespace Table

def read (t : Table ι H V) : Ref ι H → V
  | .slot index => t.slots index
  | .overflow hash => t.overflow hash

variable [DecidableEq ι] [DecidableEq H]

def write (t : Table ι H V) (ref : Ref ι H) (v : V) : Table ι H V :=
  match ref with
  | .slot index => { t with slots := Function.update t.slots index v }
  | .overflow hash => { t with overflow := Function.update t.overflow hash v }

@[simp] theorem read_write_self (t : Table ι H V) (ref : Ref ι H) (v : V) :
    (t.write ref v).read ref = v := by
  cases ref <;> simp [write, read]

theorem read_write_of_ne (t : Table ι H V) {ref other : Ref ι H} (v : V) (ne : other ≠ ref) :
    (t.write ref v).read other = t.read other := by
  cases ref <;> cases other <;> simp_all [write, read]

theorem read_write (t : Table ι H V) (ref other : Ref ι H) (v : V) :
    (t.write ref v).read other = if other = ref then v else t.read other := by
  by_cases same : other = ref
  · rw [if_pos same, same, read_write_self]
  · rw [if_neg same, read_write_of_ne t v same]

/-- The later of two writes to one reference stays. -/
theorem write_write (t : Table ι H V) (ref : Ref ι H) (v u : V) :
    (t.write ref v).write ref u = t.write ref u := by
  cases ref <;> simp [write]

/-- Writes to different references commute. -/
theorem write_comm (t : Table ι H V) {ref other : Ref ι H} (v u : V) (ne : ref ≠ other) :
    (t.write ref v).write other u = (t.write other u).write ref v := by
  cases ref with
  | slot index =>
    cases other with
    | slot index' =>
      have different : index ≠ index' := fun same => ne (by rw [same])
      simp only [write, Function.update_comm different]
    | overflow hash => rfl
  | overflow hash =>
    cases other with
    | slot index => rfl
    | overflow hash' =>
      have different : hash ≠ hash' := fun same => ne (by rw [same])
      simp only [write, Function.update_comm different]

end Table

namespace Scheme

variable (S : Scheme ι H K V) [DecidableEq K]

/-- Where the record of a key is read and written. -/
def find (t : Table ι H V) (k : K) : Ref ι H :=
  if S.keyOf (t.slots (S.short k)) = some k then .slot (S.short k) else .overflow (S.full k)

/-- The live record of a key. -/
def lookup (t : Table ι H V) (k : K) : Option V :=
  if S.keyOf (t.read (S.find t k)) = some k then some (t.read (S.find t k)) else none

/-- Every live record is in one of its two places, and no key is live twice. -/
structure WellFormed (t : Table ι H V) : Prop where
  placed : ∀ ref k, S.keyOf (t.read ref) = some k →
    ref = .slot (S.short k) ∨ ref = .overflow (S.full k)
  unique : ∀ ref ref' k, S.keyOf (t.read ref) = some k → S.keyOf (t.read ref') = some k →
    ref = ref'

variable [DecidableEq ι] [DecidableEq H]

/-- Make room for a key: a live record in its slot moves to the overflow map. -/
def spill (t : Table ι H V) (k : K) : Table ι H V :=
  match S.keyOf (t.slots (S.short k)) with
  | some occupant => t.write (.overflow (S.full occupant)) (t.slots (S.short k))
  | none => t

/-- Store a record under a new key. -/
def store (t : Table ι H V) (k : K) (v : V) : Table ι H V :=
  (S.spill t k).write (.slot (S.short k)) v

/-- Remove the record of a key. -/
def remove (t : Table ι H V) (k : K) : Table ι H V :=
  if S.keyOf (t.slots (S.short k)) = some k then
    t.write (.slot (S.short k)) (S.retire (t.slots (S.short k)))
  else t.write (.overflow (S.full k)) S.blank

variable {S}

/-! ### Lookups -/

theorem lookup_key {t : Table ι H V} {k : K} {v : V} (found : S.lookup t k = some v) :
    S.keyOf v = some k := by
  unfold lookup at found
  split at found
  · next live =>
    cases found
    exact live
  · cases found

theorem lookup_read {t : Table ι H V} {k : K} {v : V} (found : S.lookup t k = some v) :
    t.read (S.find t k) = v := by
  unfold lookup at found
  split at found
  · exact Option.some.inj found
  · cases found

/-- A live record is where `find` looks for it. -/
theorem find_of_live {t : Table ι H V} (wf : S.WellFormed t) {ref : Ref ι H} {k : K}
    (live : S.keyOf (t.read ref) = some k) : S.find t k = ref := by
  unfold find
  rcases wf.placed ref k live with rfl | rfl
  · exact if_pos live
  · rw [if_neg]
    intro inSlot
    have same := wf.unique (.slot (S.short k)) _ k inSlot live
    cases same

theorem lookup_of_live {t : Table ι H V} (wf : S.WellFormed t) {ref : Ref ι H} {k : K}
    (live : S.keyOf (t.read ref) = some k) : S.lookup t k = some (t.read ref) := by
  unfold lookup
  rw [find_of_live wf live, if_pos live]

theorem lookup_eq_some_iff {t : Table ι H V} (wf : S.WellFormed t) {k : K} {v : V} :
    S.lookup t k = some v ↔ ∃ ref, t.read ref = v ∧ S.keyOf v = some k := by
  constructor
  · exact fun found => ⟨S.find t k, lookup_read found, lookup_key found⟩
  · rintro ⟨ref, rfl, live⟩
    exact lookup_of_live wf live

theorem not_live_of_lookup_none {t : Table ι H V} (wf : S.WellFormed t) {k : K}
    (absent : S.lookup t k = none) (ref : Ref ι H) : S.keyOf (t.read ref) ≠ some k := by
  intro live
  rw [lookup_of_live wf live] at absent
  cases absent

/-! ### One write -/

/-- A write keeps the table well formed if the new record, when live, is in place and its key is
not live elsewhere. -/
theorem WellFormed.write {t : Table ι H V} (wf : S.WellFormed t) {ref : Ref ι H} {v : V}
    (placed : ∀ k, S.keyOf v = some k → ref = .slot (S.short k) ∨ ref = .overflow (S.full k))
    (alone : ∀ k, S.keyOf v = some k → ∀ other, S.keyOf (t.read other) = some k → other = ref) :
    S.WellFormed (t.write ref v) := by
  constructor
  · intro other k live
    rw [Table.read_write] at live
    split at live
    · next same => rw [same]; exact placed k live
    · exact wf.placed other k live
  · intro first second k live live'
    rw [Table.read_write] at live live'
    split at live <;> split at live'
    · next same same' => rw [same, same']
    · next same _ => rw [same, alone k live second live']
    · next _ same => rw [same, alone k live' first live]
    · exact wf.unique first second k live live'

/-- **One write, all lookups.** The written record is found under its key, the key it overwrote is
gone, and every other key is untouched. -/
theorem lookup_write {t : Table ι H V} (wf : S.WellFormed t) {ref : Ref ι H} {v : V}
    (wf' : S.WellFormed (t.write ref v)) (k : K) :
    S.lookup (t.write ref v) k =
      if S.keyOf v = some k then some v
      else if S.keyOf (t.read ref) = some k then none else S.lookup t k := by
  split
  · next live =>
    have written : S.keyOf ((t.write ref v).read ref) = some k := by
      rw [Table.read_write_self]
      exact live
    rw [lookup_of_live wf' written, Table.read_write_self]
  · next dead =>
    ext u
    rw [lookup_eq_some_iff wf']
    split
    · next overwritten =>
      simp only [reduceCtorEq, iff_false]
      rintro ⟨other, rfl, live⟩
      rw [Table.read_write] at live
      split at live
      · exact dead live
      · next ne => exact ne (wf.unique other ref k live overwritten)
    · next kept =>
      rw [lookup_eq_some_iff wf]
      constructor
      · rintro ⟨other, rfl, live⟩
        rw [Table.read_write] at live ⊢
        split at live
        · exact absurd live dead
        · next ne => exact ⟨other, by rw [if_neg ne], by rw [if_neg ne]; exact live⟩
      · rintro ⟨other, rfl, live⟩
        have ne : other ≠ ref := fun same => kept (same ▸ live)
        exact ⟨other, Table.read_write_of_ne t v ne, live⟩

/-! ### Modify, remove, store -/

/-- Modifying a record in place keeps the table well formed. -/
theorem WellFormed.modify {t : Table ι H V} (wf : S.WellFormed t) {ref : Ref ι H} {v : V}
    (same : S.keyOf v = S.keyOf (t.read ref)) : S.WellFormed (t.write ref v) :=
  wf.write (fun k live => wf.placed ref k (same ▸ live))
    fun k live other live' => wf.unique other ref k live' (same ▸ live)

/-- **Modification.** Whichever record a reference happens to hold is the one that changes. -/
theorem lookup_modify {t : Table ι H V} (wf : S.WellFormed t) {ref : Ref ι H} {v : V}
    (same : S.keyOf v = S.keyOf (t.read ref)) (k : K) :
    S.lookup (t.write ref v) k =
      if S.keyOf (t.read ref) = some k then some v else S.lookup t k := by
  rw [lookup_write wf (wf.modify same), same]
  split <;> rfl

theorem WellFormed.retireAt {t : Table ι H V} (wf : S.WellFormed t) {ref : Ref ι H} {v : V}
    (dead : S.keyOf v = none) : S.WellFormed (t.write ref v) :=
  wf.write (fun k live => by rw [dead] at live; cases live)
    fun k live => by rw [dead] at live; cases live

/-- An overflow entry holds at most the record of its own key. -/
theorem overflow_live {t : Table ι H V} (wf : S.WellFormed t) {k k' : K}
    (live : S.keyOf (t.overflow (S.full k)) = some k') : k' = k := by
  rcases wf.placed (.overflow (S.full k)) k' live with other | same
  · cases other
  · exact (S.full_injective (by injection same)).symm

theorem WellFormed.remove {t : Table ι H V} (wf : S.WellFormed t) (k : K) :
    S.WellFormed (S.remove t k) := by
  unfold Scheme.remove
  split
  · exact wf.retireAt (S.keyOf_retire _)
  · exact wf.retireAt S.keyOf_blank

/-- **Removal** erases the key and nothing else. -/
theorem lookup_remove {t : Table ι H V} (wf : S.WellFormed t) (k : K) :
    S.lookup (S.remove t k) = Function.update (S.lookup t) k none := by
  have wf' := wf.remove k
  funext q
  unfold Scheme.remove at wf' ⊢
  split at wf'
  · next live =>
    rw [if_pos live, lookup_write wf wf', S.keyOf_retire, if_neg (by simp)]
    by_cases same : q = k
    · subst same
      rw [Function.update_self, if_pos (by exact live)]
    · rw [Function.update_of_ne same, if_neg]
      intro live'
      exact same (Option.some.inj (live'.symm.trans live))
  · next dead =>
    rw [if_neg dead, lookup_write wf wf', S.keyOf_blank, if_neg (by simp)]
    by_cases same : q = k
    · subst same
      rw [Function.update_self]
      split
      · rfl
      · next gone =>
        unfold lookup find
        rw [if_neg dead, if_neg gone]
    · rw [Function.update_of_ne same, if_neg]
      exact fun live => same (overflow_live wf live)

/-- The write to the slot of a new key. -/
theorem WellFormed.place {t : Table ι H V} (wf : S.WellFormed t) {k : K} {v : V}
    (fresh : S.lookup t k = none) (key : S.keyOf v = some k) :
    S.WellFormed (t.write (.slot (S.short k)) v) := by
  refine wf.write (fun k' live => ?_) fun k' live other live' => ?_
  · rw [key] at live
    cases live
    exact Or.inl rfl
  · rw [key] at live
    cases live
    exact absurd live' (not_live_of_lookup_none wf fresh other)

/-- **Storing** under a new key: the table stays well formed and the map gains the record. -/
theorem store_spec {t : Table ι H V} (wf : S.WellFormed t) {k : K} {v : V}
    (fresh : S.lookup t k = none) (key : S.keyOf v = some k) :
    S.WellFormed (S.store t k v) ∧
      S.lookup (S.store t k v) = Function.update (S.lookup t) k (some v) := by
  have placedWf := wf.place fresh key
  have placedLookup := lookup_write wf placedWf
  unfold store spill
  cases occupied : S.keyOf (t.slots (S.short k)) with
  | none =>
    refine ⟨placedWf, funext fun q => ?_⟩
    have free : S.keyOf (t.read (.slot (S.short k))) = none := occupied
    rw [placedLookup, key, free]
    by_cases same : q = k
    · subst same
      rw [if_pos rfl, Function.update_self]
    · rw [if_neg (fun equal => same (Option.some.inj equal).symm), if_neg (by simp),
        Function.update_of_ne same]
  | some occupant =>
    -- the occupant is saved after the slot is taken: the two writes commute
    show S.WellFormed ((t.write (.overflow (S.full occupant)) (t.slots (S.short k))).write
        (.slot (S.short k)) v) ∧
      S.lookup ((t.write (.overflow (S.full occupant)) (t.slots (S.short k))).write
        (.slot (S.short k)) v) = _
    rw [Table.write_comm t _ _ (by simp)]
    have taken : S.keyOf (t.read (.slot (S.short k))) = some occupant := occupied
    have different : occupant ≠ k := by
      rintro rfl
      exact not_live_of_lookup_none wf fresh _ taken
    have saved : ∀ q, S.lookup (t.write (.slot (S.short k)) v) q =
        if q = k then some v else if q = occupant then none else S.lookup t q := by
      intro q
      rw [placedLookup, key, taken]
      simp only [Option.some.injEq, eq_comm]
    have gone : S.lookup (t.write (.slot (S.short k)) v) occupant = none := by
      rw [saved, if_neg different, if_pos rfl]
    have bothWf : S.WellFormed ((t.write (.slot (S.short k)) v).write
        (.overflow (S.full occupant)) (t.slots (S.short k))) := by
      refine placedWf.write (fun k' live => ?_) fun k' live other live' => ?_
      · rw [occupied] at live
        cases live
        exact Or.inr rfl
      · rw [occupied] at live
        cases live
        exact absurd live' (not_live_of_lookup_none placedWf gone other)
    refine ⟨bothWf, funext fun q => ?_⟩
    rw [lookup_write placedWf bothWf, occupied]
    have entryDead : ∀ q', S.keyOf ((t.write (.slot (S.short k)) v).read
        (.overflow (S.full occupant))) ≠ some q' := by
      intro q' live
      have same := overflow_live placedWf live
      subst same
      exact not_live_of_lookup_none placedWf gone _ live
    rw [if_neg (entryDead q), saved]
    by_cases same : q = k
    · subst same
      rw [if_neg (fun equal => different (Option.some.inj equal)), if_pos rfl, Function.update_self]
    · rw [Function.update_of_ne same, if_neg same]
      by_cases occupantKey : q = occupant
      · subst occupantKey
        rw [if_pos rfl, lookup_of_live wf taken]
        rfl
      · rw [if_neg (fun equal => occupantKey (Option.some.inj equal).symm), if_neg occupantKey]

/-! ### What the slots hold

Records never move into a slot: a slot gains a live key only when that key is stored. -/

theorem slots_modify {t : Table ι H V} {ref : Ref ι H} {v : V}
    (same : S.keyOf v = S.keyOf (t.read ref)) (index : ι) :
    S.keyOf ((t.write ref v).slots index) = S.keyOf (t.slots index) := by
  show S.keyOf ((t.write ref v).read (.slot index)) = S.keyOf (t.read (.slot index))
  rw [Table.read_write]
  split
  · next here => rw [here, same]
  · rfl

theorem slots_remove {t : Table ι H V} {k q : K} {index : ι}
    (live : S.keyOf ((S.remove t k).slots index) = some q) : S.keyOf (t.slots index) = some q := by
  unfold remove at live
  split at live
  · have read : S.keyOf ((t.write (.slot (S.short k)) (S.retire (t.slots (S.short k)))).read
        (.slot index)) = some q := live
    rw [Table.read_write] at read
    split at read
    · rw [S.keyOf_retire] at read
      cases read
    · exact read
  · exact live

theorem slots_store {t : Table ι H V} {k q : K} {v : V} {index : ι} (key : S.keyOf v = some k)
    (live : S.keyOf ((S.store t k v).slots index) = some q) :
    q = k ∨ S.keyOf (t.slots index) = some q := by
  have spilled : (S.spill t k).slots = t.slots := by
    unfold spill
    split <;> rfl
  have read : S.keyOf (((S.spill t k).write (.slot (S.short k)) v).read (.slot index)) = some q :=
    live
  rw [Table.read_write] at read
  split at read
  · rw [key] at read
    exact .inl (Option.some.inj read).symm
  · exact .inr (spilled ▸ read)

end Scheme

end SlotTable
