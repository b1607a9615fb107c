/-
**A table with a primary key.**

* `Table` — rows whose keys are all different.
* `insert` — refused when the key exists. `update` — changes the rows that meet a condition, but not
  their keys.
* `find` — the row of a key, before and after these (`find_insert`, `find_update`); every row is found
  by its key (`find_eq_some`).
-/

import Mathlib.Data.List.Nodup

structure KeyedTable {R κ : Type} (key : R → κ) where
  rows : List R
  unique : (rows.map key).Nodup

namespace KeyedTable

variable {R κ : Type} {key : R → κ} [DecidableEq κ]

def empty : KeyedTable key := ⟨[], List.nodup_nil⟩

/-- The row of a key. -/
def find (table : KeyedTable key) (k : κ) : Option R := table.rows.find? fun row => key row = k

/-- A new row, unless its key exists. -/
def insert (table : KeyedTable key) (row : R) : Option (KeyedTable key) :=
  if fresh : key row ∈ table.rows.map key then none
  else some ⟨row :: table.rows, List.nodup_cons.mpr ⟨fresh, table.unique⟩⟩

/-- A change of all rows that meet a condition. -/
def update (table : KeyedTable key) (condition : R → Bool) (set : R → R)
    (keeps : ∀ row, key (set row) = key row) : KeyedTable key where
  rows := table.rows.map fun row => if condition row then set row else row
  unique := by
    have same : (table.rows.map fun row => if condition row then set row else row).map key =
        table.rows.map key := by
      rw [List.map_map]
      refine List.map_congr_left fun row _ => ?_
      show key (if condition row then set row else row) = key row
      split
      · exact keeps row
      · rfl
    rw [same]
    exact table.unique

variable {table table' : KeyedTable key} {row : R} {k : κ}

theorem key_of_find (found : table.find k = some row) : key row = k := by
  unfold find at found
  have here := List.find?_some found
  exact of_decide_eq_true here

/-- The rows are the rows of their keys. -/
theorem find_eq_some : table.find k = some row ↔ row ∈ table.rows ∧ key row = k := by
  refine ⟨fun found => ⟨List.mem_of_find?_eq_some found, key_of_find found⟩, ?_⟩
  rintro ⟨member, rfl⟩
  cases found : table.find (key row) with
  | none =>
    have absent := List.find?_eq_none.mp found row member
    simp only [decide_true, not_true_eq_false] at absent
  | some other =>
    have same := List.inj_on_of_nodup_map table.unique (List.mem_of_find?_eq_some found) member
      (key_of_find found)
    rw [same]

@[simp] theorem find_empty : (empty : KeyedTable key).find k = none := rfl

theorem insert_eq_none : table.insert row = none ↔ table.find (key row) ≠ none := by
  unfold insert find
  split
  · next present =>
    obtain ⟨other, member, same⟩ := List.mem_map.mp present
    refine ⟨fun _ absent => ?_, fun _ => rfl⟩
    exact absurd same (by simpa using List.find?_eq_none.mp absent other member)
  · next fresh =>
    refine ⟨fun refused => (by cases refused), fun present => absurd ?_ present⟩
    refine List.find?_eq_none.mpr fun other member => ?_
    simp only [decide_eq_true_eq]
    exact fun same => fresh (same ▸ List.mem_map_of_mem member)

/-- After an insert. -/
theorem find_insert (inserted : table.insert row = some table') :
    table'.find k = if key row = k then some row else table.find k := by
  unfold insert at inserted
  split at inserted
  · cases inserted
  · cases inserted
    show (row :: table.rows).find? _ = _
    rw [List.find?_cons]
    by_cases here : key row = k
    · simp only [here, decide_true, if_true]
    · simp only [here, decide_false, if_false]
      rfl

/-- After an update. -/
theorem find_update (condition : R → Bool) (set : R → R) (keeps : ∀ row, key (set row) = key row) :
    (table.update condition set keeps).find k =
      (table.find k).map fun row => if condition row then set row else row := by
  show (table.rows.map _).find? _ = _
  rw [List.find?_map]
  have same : ((fun row => decide (key row = k)) ∘ fun row =>
      if condition row then set row else row) = fun row => decide (key row = k) := by
    funext row
    show decide (key (if condition row then set row else row) = k) = _
    split
    · rw [keeps]
    · rfl
  rw [same]
  rfl

theorem find_update_of_met {condition : R → Bool} {set : R → R}
    (keeps : ∀ row, key (set row) = key row) (found : table.find k = some row)
    (met : condition row = true) : (table.update condition set keeps).find k = some (set row) := by
  rw [find_update, found]
  exact congrArg some (if_pos met)

/-- An update of one key leaves the rows of the others alone. -/
theorem find_update_of_ne {condition : R → Bool} {set : R → R}
    (keeps : ∀ row, key (set row) = key row) {here : κ}
    (only_here : ∀ row, condition row = true → key row = here) (other : k ≠ here) :
    (table.update condition set keeps).find k = table.find k := by
  rw [find_update]
  cases found : table.find k with
  | none => rfl
  | some row =>
    have unmet : ¬ condition row = true :=
      fun met => other ((key_of_find found).symm.trans (only_here row met))
    exact congrArg some (if_neg unmet)

end KeyedTable
