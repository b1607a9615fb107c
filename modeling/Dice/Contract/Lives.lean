/-
**The life of a request**, as its run records it.

* `World.life` — the marks of one request in the history, newest first: its callback was started, its
  callback succeeded, `Revealed` was emitted, `RequestRefunded` was emitted.
* `World.Gone` — the request was made, or its number skipped, and it is not active any more. It never
  is again (`World.Gone.mono`), and a call that waits is gone for good (`Calls.gone`).
* `Finishes.life_cases`, `Calls.life_cases`, `Resumes.life_cases` — the marks that each half of a call
  leaves on its own request; on others it leaves none (`Calls.life_other`, `Resumes.life_other`).
-/

import Dice.Contract.Symbolic

set_option linter.unusedSectionVars false

namespace Dice

variable {Bytes32 : Type}

/-- What can happen to a request. -/
inductive Mark where
  | called
  | delivered
  | revealed
  | refunded
  deriving DecidableEq, Repr

/-- The mark that an entry of the history leaves on a request. -/
@[simp] def Entry.mark (key : RequestKey) : Entry Bytes32 → Option Mark
  | .called provider n _ _ => if (provider, n) = key then some .called else none
  | .delivered provider n => if (provider, n) = key then some .delivered else none
  | .emitted (.revealed provider _ n _ _ _ _ _ _) =>
      if (provider, n) = key then some .revealed else none
  | .emitted (.requestRefunded provider _ n _) =>
      if (provider, n) = key then some .refunded else none
  | _ => none

theorem Entry.mark_eq_delivered {provider : Address} {n : ℕ} {entry : Entry Bytes32} :
    Entry.mark (provider, n) entry = some .delivered ↔ entry = .delivered provider n := by
  cases entry with
  | delivered provider' n' => simp
  | emitted event => cases event <;> simp
  | _ => simp

/-- The marks of a request, newest first. -/
def World.life (w : World Bytes32) (key : RequestKey) : List Mark :=
  w.history.filterMap (Entry.mark key)

section Marks

variable (w : World Bytes32) (key : RequestKey)

@[simp] theorem life_setState (s : State Bytes32) : (w.setState s).life key = w.life key := rfl

@[simp] theorem life_record (entry : Entry Bytes32) :
    (w.record entry).life key = (Entry.mark key entry).toList ++ w.life key := by
  unfold World.life
  rw [World.record_history, List.filterMap_cons]
  cases Entry.mark key entry <;> rfl

@[simp] theorem life_emit (event : Event Bytes32) :
    (w.emit event).life key = (Entry.mark key (.emitted event)).toList ++ w.life key :=
  life_record w key _

end Marks

variable (K : Keccak Bytes32) [DecidableEq Bytes32]

/-- A number that was used and is not active. -/
def World.Gone (w : World Bytes32) (key : RequestKey) : Prop :=
  w.Used key ∧ w.state.lookup K key = none

/-- The request that a waiting call is about. -/
def Pending.target : Pending Bytes32 → Option RequestKey
  | .limited _ provider n _ _ _ _ => some (provider, n)
  | .unlimited _ provider n _ _ _ _ => some (provider, n)
  | .refund provider _ n _ => some (provider, n)
  | .withdrawal => none
  | .foreign => none

/-- A waiting reveal. -/
def Pending.Reveals : Pending Bytes32 → Prop
  | .limited .. => True
  | .unlimited .. => True
  | _ => False

/-- A refund of the request that passes its checks. -/
def Refunding (m : Message Bytes32) (w : World Bytes32) (key : RequestKey) : Prop :=
  m.call = .refundRequest key.1 key.2 ∧ ∃ req, RefundChecks K w m.msg key.1 key.2 req

section Lives

variable {K} {m : Message Bytes32} {w w' w₁ w₂ w₃ : World Bytes32} {pending : Pending Bytes32}
variable {result : CallResult} {key : RequestKey}

@[simp] theorem life_accepted (w : World Bytes32) (provider : Address) (n : ℕ) (v : Bytes32)
    (key : RequestKey) : (w.accepted provider n v).life key = w.life key :=
  life_record _ _ _

@[simp] theorem life_cleared (w : World Bytes32) (provider : Address) (n : ℕ) (key : RequestKey) :
    (w.cleared K provider n).life key = w.life key := rfl

theorem World.Gone.mono (keeps : Keeps K w w') (gone : w.Gone K key) : w'.Gone K key := by
  refine ⟨gone.1.mono keeps.counter, ?_⟩
  cases found : w'.state.lookup K key with
  | none => rfl
  | some req' =>
    obtain ⟨req, before, _⟩ := keeps.request gone.1 found
    rw [gone.2] at before
    cases before

/-- A removed request is gone. -/
theorem gone_of_removed {key : RequestKey} (wf : (requestScheme K).WellFormed w.state.table)
    (removed : w'.state.table = (requestScheme K).remove w.state.table key)
    (used : w'.Used key) : w'.Gone K key := by
  refine ⟨used, ?_⟩
  rw [lookup_of_removed wf removed, Function.update_self]

/-- An active request is not gone. -/
theorem not_gone_of_found {req : Request Bytes32} (found : w.state.lookup K key = some req) :
    ¬ w.Gone K key := by
  intro gone
  rw [gone.2] at found
  cases found

/-! ### What each half marks -/

/-- **A call that finishes at once** marks at most one request, an active one, and settles it. -/
theorem Finishes.life_cases (sound : Sound K w) (finishes : Finishes K m w w') (key : RequestKey) :
    w'.life key = w.life key ∨
      ∃ req, w.state.lookup K key = some req ∧ w'.Gone K key ∧
        (w'.life key = .revealed :: w.life key ∨
          Refunding K m w key ∧ w'.life key = .refunded :: w.life key) := by
  cases finishes with
  | registered _ _ => exact .inl rfl
  | requested _ _ => exact .inl rfl
  | revealed _ checks status _ => exact absurd status (sound.withCallback checks.found)
  | @noCallback provider n _ _ _ v req _ checks _ _ _ =>
    by_cases same : (provider, n) = key
    · subst same
      refine .inr ⟨req, checks.found, ?_, .inl (by simp)⟩
      exact gone_of_removed sound.wf rfl
        ((sound.used checks.found).mono (w.accepted_countsUp provider n v))
    · exact .inl (by simp [same])
  | @refundedNothing provider n req call checks _ =>
    by_cases same : (provider, n) = key
    · subst same
      refine .inr ⟨req, checks.found, ?_, .inr ⟨⟨call, req, checks⟩, by simp⟩⟩
      exact gone_of_removed sound.wf rfl (sound.used checks.found)
    · exact .inl (by simp [same])
  | advanced _ _ => exact .inl rfl
  | configured _ configures =>
    left
    cases configures <;> simp
  | administered _ => exact .inl rfl
  | forced _ => exact .inl rfl

/-- **A first half** is about an active request, if about any. -/
theorem Calls.found (calls : Calls K m w w₁ pending) (target : pending.target = some key) :
    ∃ req, w.state.lookup K key = some req := by
  cases calls with
  | limited _ checks _ _ =>
    cases target
    exact ⟨_, checks.found⟩
  | unlimited _ checks _ _ =>
    cases target
    exact ⟨_, checks.found⟩
  | refund _ checks _ _ _ =>
    cases target
    exact ⟨_, checks.found⟩
  | withdrawal _ _ _ _ => cases target
  | foreign _ => cases target

/-- Outside the gas-limited branch the request is removed before the message call. -/
theorem Calls.gone (sound : Sound K w) (calls : Calls K m w w₁ pending)
    (target : pending.target = some key) (other : ¬ pending.Limited) : w₁.Gone K key := by
  cases calls with
  | limited _ _ _ _ => exact absurd trivial other
  | @unlimited provider n _ _ _ _ v _ _ checks _ _ =>
    cases target
    exact gone_of_removed sound.wf rfl
      ((sound.used checks.found).mono (w.accepted_countsUp provider n v))
  | refund _ checks _ _ _ =>
    cases target
    exact gone_of_removed sound.wf rfl (sound.used checks.found)
  | withdrawal _ _ _ _ => cases target
  | foreign _ => cases target

/-- **A first half** marks its request as called, unless it is a refund. -/
theorem Calls.life_cases (calls : Calls K m w w₁ pending) (target : pending.target = some key) :
    ¬ pending.Reveals ∧ Refunding K m w key ∧ w₁.life key = w.life key ∨
      pending.Reveals ∧ w₁.life key = .called :: w.life key := by
  cases calls with
  | limited _ _ _ _ =>
    cases target
    exact .inr ⟨trivial, by simp⟩
  | unlimited _ _ _ _ =>
    cases target
    exact .inr ⟨trivial, by simp⟩
  | refund call checks _ _ _ =>
    cases target
    exact .inl ⟨not_false, ⟨call, _, checks⟩, rfl⟩
  | withdrawal _ _ _ _ => cases target
  | foreign _ => cases target

/-- A call that is not about a request is, if about any, about another one. -/
theorem Pending.other_key (other : pending.target ≠ some key) {provider : Address} {n : ℕ}
    (target : pending.target = some (provider, n)) : (provider, n) ≠ key :=
  fun same => other (target.trans (congrArg some same))

/-- It marks no other request. -/
theorem Calls.life_other (calls : Calls K m w w₁ pending) (other : pending.target ≠ some key) :
    w₁.life key = w.life key := by
  cases calls with
  | limited _ _ _ _ => simp [Pending.other_key other rfl]
  | unlimited _ _ _ _ => simp [Pending.other_key other rfl]
  | refund _ _ _ _ _ => rfl
  | withdrawal _ _ _ _ => rfl
  | foreign _ => rfl

/-- **The rest of a call** marks its own request alone. -/
theorem Resumes.life_other (resumes : Resumes K result w₂ pending w₃)
    (other : pending.target ≠ some key) : w₃.life key = w₂.life key := by
  cases resumes with
  | limitedDelivered _ _ _ =>
    simp [Pending.other_key other rfl]
  | limitedFailed _ _ _ _ => simp [Pending.other_key other rfl]
  | unlimitedDelivered _ _ _ =>
    simp [Pending.other_key other rfl]
  | unlimitedFailed _ _ _ => simp [Pending.other_key other rfl]
  | refund _ => simp [Pending.other_key other rfl]
  | withdrawal _ => rfl
  | foreign _ => rfl

/-- **The rest of a call** marks its request as revealed, and as delivered exactly if the callback
succeeded, or as refunded. -/
theorem Resumes.life_cases (resumes : Resumes K result w₂ pending w₃)
    (target : pending.target = some key) :
    ¬ pending.Reveals ∧ w₃.life key = .refunded :: w₂.life key ∨
      pending.Reveals ∧
        (result.success = true ∧ w₃.life key = .revealed :: .delivered :: w₂.life key ∨
          result.success = false ∧ w₃.life key = .revealed :: w₂.life key) := by
  cases resumes with
  | limitedDelivered success _ _ =>
    cases target
    exact .inr ⟨trivial, .inl ⟨success, by simp⟩⟩
  | limitedFailed failure _ _ _ =>
    cases target
    exact .inr ⟨trivial, .inr ⟨failure, by simp⟩⟩
  | unlimitedDelivered success _ _ =>
    cases target
    exact .inr ⟨trivial, .inl ⟨success, by simp⟩⟩
  | unlimitedFailed failure _ _ =>
    cases target
    exact .inr ⟨trivial, .inr ⟨failure, by simp⟩⟩
  | refund _ =>
    cases target
    exact .inl ⟨not_false, by simp⟩
  | withdrawal _ => cases target
  | foreign _ => cases target

/-- Nothing has happened to any request before the first call. -/
theorem constructor_life {d : Deployment Bytes32} {w : World Bytes32}
    (deployed : constructor K d = .ok w) (key : RequestKey) : w.life key = [] := by
  rcases (constructor_ok deployed).2 with ⟨_, rfl⟩ | ⟨_, rfl⟩ <;> rfl

end Lives

end Dice
