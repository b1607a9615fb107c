/-
**Chains under one hash function.**

A chain is walked from its end to its root: each value hashes to the one before it, and `IsLink hash
root index value` says that `value` is the value at `index` of the chain with the given root, that
is, that hashing it `index` times gives the root.

* `IsLink.append` — a value `k` links behind a known one.
* `IsLink.unique` — under an injective hash there is one value for each index, and hashing leads from
  each value to the ones before it (`IsLink.above`).
* `IsLink.index_unique` — when no value is its own iterated hash, there is one index for each value.
* `IsLink.iterate_ne` — then no value leads, by hashing, to a value further down the chain.
-/

import Mathlib.Logic.Function.Iterate

namespace HashChain

variable {B : Type} {hash : B → B}

/-- `value` is at `index` of the chain with this root. -/
def IsLink (hash : B → B) (root : B) (index : ℕ) (value : B) : Prop :=
  hash^[index] value = root

/-- No value comes back under repeated hashing. -/
def Acyclic (hash : B → B) : Prop :=
  ∀ value, Function.Injective fun index => hash^[index] value

theorem IsLink.root (hash : B → B) (root : B) : IsLink hash root 0 root := rfl

/-- Walking `steps` further down the chain. -/
theorem IsLink.append {root middle value : B} {index steps : ℕ} (link : IsLink hash root index middle)
    (below : hash^[steps] value = middle) : IsLink hash root (index + steps) value := by
  unfold IsLink
  rw [Function.iterate_add_apply, below]
  exact link

/-- **One value for each index.** -/
theorem IsLink.unique (injective : Function.Injective hash) {root first second : B} {index : ℕ}
    (link : IsLink hash root index first) (link' : IsLink hash root index second) :
    first = second :=
  injective.iterate index (link.trans link'.symm)

/-- Hashing a value leads to the ones before it. -/
theorem IsLink.above (injective : Function.Injective hash) {root first second : B} {index steps : ℕ}
    (link : IsLink hash root index first) (link' : IsLink hash root (index + steps) second) :
    hash^[steps] second = first := by
  have middle : IsLink hash root index (hash^[steps] second) := by
    unfold IsLink
    rw [← Function.iterate_add_apply]
    exact link'
  exact middle.unique injective link

/-- **One index for each value.** -/
theorem IsLink.index_unique (acyclic : Acyclic hash) {root value : B} {first second : ℕ}
    (link : IsLink hash root first value) (link' : IsLink hash root second value) :
    first = second :=
  acyclic value (link.trans link'.symm)

/-- **Walking back never leads further down.** -/
theorem IsLink.iterate_ne (acyclic : Acyclic hash) {root first second : B} {index later : ℕ}
    (link : IsLink hash root index first) (link' : IsLink hash root later second)
    (before : index < later) (steps : ℕ) : hash^[steps] first ≠ second := by
  rintro rfl
  have link'' : IsLink hash root (later + steps) first := by
    unfold IsLink
    rw [Function.iterate_add_apply]
    exact link'
  have same := link.index_unique acyclic link''
  omega

end HashChain
