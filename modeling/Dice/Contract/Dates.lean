/-
**When a request was made.**

* `Dated` — the invariant: a request in storage has a `Requested` event, and its block number is not
  above the current one.
* `After` — what is requested between two moments carries a block number from the first of them on.
* `Reachable.dated`, `Reachable.after` — both in every run.

The block number of a request is written once, when the request is made.
-/

import Dice.Contract.Reveals

set_option linter.unusedSectionVars false

namespace Dice

variable {Bytes32 : Type} (K : Keccak Bytes32) [DecidableEq Bytes32]

/-- **Every request in storage is on record and dated.** -/
structure Dated (w : World Bytes32) : Prop where
  made : ∀ {key req}, w.state.lookup K key = some req → w.requests key ≠ []
  date : ∀ {key req}, w.state.lookup K key = some req → req.blockNumber ≤ w.blockNumber

/-- **A later world**: blocks are counted up, and a request that is new carries a later number. -/
structure After (w w' : World Bytes32) : Prop extends Keeps K w w' where
  sound : Sound K w → Sound K w'
  blockNumber : w.blockNumber ≤ w'.blockNumber
  new : Sound K w → ∀ {key req}, ¬ w.Used key → w'.state.lookup K key = some req →
    w.blockNumber ≤ req.blockNumber

section Dates

variable {K} {m : Message Bytes32} {u v w w' w₁ w₂ w₃ : World Bytes32} {pending : Pending Bytes32}
variable {result : CallResult} {key : RequestKey}

theorem requests_ne_nil_mono (grows : w.history <:+ w'.history) (made : w.requests key ≠ []) :
    w'.requests key ≠ [] := by
  intro none_made
  have shorter : w.requests key <:+ w'.requests key := grows.filter _
  rw [none_made] at shorter
  exact made (List.suffix_nil.mp shorter)

/-- A request keeps its number. -/
theorem Request.Same.blockNumber {req req' : Request Bytes32} (same : req.Same req') :
    req'.blockNumber = req.blockNumber := by
  unfold Request.Same at same
  rw [same]

/-- Nothing new is found after halves that narrow. -/
theorem After.narrows (sound : Sound K w) (sound' : Sound K w') (narrows : Narrows K w w')
    (keeps : Keeps K w w') (later : w.blockNumber ≤ w'.blockNumber) : After K w w' where
  toKeeps := keeps
  sound _ := sound'
  blockNumber := later
  new := by
    intro _ key req fresh found
    obtain ⟨_, before, _⟩ := narrows found
    exact absurd (sound.used before) fresh

theorem After.refl (w : World Bytes32) : After K w w where
  toKeeps := (Evolves.refl w).toKeeps
  sound := id
  blockNumber := Nat.le_refl _
  new sound _ _ fresh found := absurd (sound.used found) fresh

theorem After.trans (first : After K u v) (second : After K v w) : After K u w where
  toKeeps := first.toKeeps.trans second.toKeeps
  sound sound := second.sound (first.sound sound)
  blockNumber := Nat.le_trans first.blockNumber second.blockNumber
  new := by
    intro sound key req fresh found
    by_cases used : v.Used key
    · -- it was there in between, with the same number
      obtain ⟨req', before, same⟩ := second.request used found
      rw [same.blockNumber]
      exact first.new sound fresh before
    · exact Nat.le_trans first.blockNumber (second.new (first.sound sound) used found)

theorem Dated.narrows (dated : Dated K w) (narrows : Narrows K w w')
    (grows : w.history <:+ w'.history) (later : w.blockNumber ≤ w'.blockNumber) : Dated K w' where
  made := by
    intro key req found
    obtain ⟨_, before, _⟩ := narrows found
    exact requests_ne_nil_mono grows (dated.made before)
  date := by
    intro key req found
    obtain ⟨req', before, same⟩ := narrows found
    rw [same.blockNumber]
    exact Nat.le_trans (dated.date before) later

/-! ### The obligations -/

theorem Finishes.blockNumber (finishes : Finishes K m w w') : w'.blockNumber = w.blockNumber := by
  cases finishes <;> rfl

theorem Calls.blockNumber (calls : Calls K m w w₁ pending) : w₁.blockNumber = w.blockNumber := by
  cases calls <;> rfl

theorem Resumes.blockNumber (resumes : Resumes K result w₂ pending w₃) :
    w₃.blockNumber = w₂.blockNumber := by
  cases resumes <;> rfl

/-- The request that is made is on record, with the number of the block. -/
theorem Dated.requested (sound : Sound K w) (dated : Dated K w) {msg : Msg} {provider : Address}
    {random : Bytes32} {gasLimit gasLimit10k : ℕ}
    (checks : RequestChecks w msg provider gasLimit gasLimit10k) :
    Dated K (w.requested K msg provider random gasLimit10k) := by
  have grows : w.history <:+ (w.requested K msg provider random gasLimit10k).history := ⟨[_, _], rfl⟩
  constructor
  · intro key req found
    rcases found_requested sound checks.registered found with ⟨rfl, rfl⟩ | ⟨_, older⟩
    · simp [World.requested]
    · exact requests_ne_nil_mono grows (dated.made older)
  · intro key req found
    rcases found_requested sound checks.registered found with ⟨rfl, rfl⟩ | ⟨_, older⟩
    · exact Nat.le_refl _
    · exact dated.date older

theorem After.requested (sound : Sound K w) {msg : Msg} {provider : Address} {random : Bytes32}
    {gasLimit gasLimit10k : ℕ} (checks : RequestChecks w msg provider gasLimit gasLimit10k)
    (sound' : Sound K (w.requested K msg provider random gasLimit10k))
    (keeps : Keeps K w (w.requested K msg provider random gasLimit10k)) :
    After K w (w.requested K msg provider random gasLimit10k) where
  toKeeps := keeps
  sound _ := sound'
  blockNumber := Nat.le_refl _
  new := by
    intro _ key req fresh found
    rcases found_requested sound checks.registered found with ⟨rfl, rfl⟩ | ⟨_, older⟩
    · exact Nat.le_refl _
    · exact absurd (sound.used older) fresh

/-- **The obligations of dates.** -/
theorem dates_rely (guard : Message Bytes32 → World Bytes32 → Prop) :
    CallStack.Rely (dice K) guard (Sound K) (Evolves K) (Dated K) (After K) := by
  refine rely_of_halves .refl (fun _ _ _ => .trans) ?_ ?_ ?_ ?_
  · intro m w w' sound dated _ finishes sound' evolves
    rcases finishes.narrows sound with narrows | ⟨provider, random, gasLimit, gasLimit10k, checks, rfl⟩
    · have later := Nat.le_of_eq finishes.blockNumber.symm
      exact ⟨dated.narrows narrows evolves.history later,
        .narrows sound sound' narrows evolves.toKeeps later⟩
    · exact ⟨dated.requested sound checks, .requested sound checks sound' evolves.toKeeps⟩
  · exact fun sound dated _ calls _ => dated.narrows (calls.narrows sound)
      (calls.advances sound).2.history (Nat.le_of_eq calls.blockNumber.symm)
  · intro m w w₁ pending result w₂ w₃ sound _ _ calls sound₁ _ sound₂ dated₂ _ between resumes _ _
    have later₁ := Nat.le_of_eq calls.blockNumber.symm
    have later₃ := Nat.le_of_eq resumes.blockNumber.symm
    obtain ⟨sound₃, keeps₃⟩ := resumes.keeps sound₂
    have first : After K w w₁ := .narrows sound sound₁ (calls.narrows sound)
      (calls.advances sound).2.toKeeps later₁
    have last : After K w₂ w₃ :=
      .narrows sound₂ sound₃ (resumes.narrows sound₂) keeps₃ later₃
    exact ⟨dated₂.narrows (resumes.narrows sound₂) keeps₃.history later₃,
      (first.trans between).trans last⟩
  · intro t w dated
    have evolves : Evolves K w (mine t w) :=
      .of_same rfl (World.countsUp_of_same rfl) (List.suffix_refl _)
    have later : w.blockNumber ≤ (mine t w).blockNumber := Nat.le_add_right _ _
    have same : Narrows K w (mine t w) := .of_same rfl
    exact ⟨dated.narrows same (List.suffix_refl _) later, evolves.toKeeps,
      fun sound => sound.of_same rfl (World.countsUp_of_same rfl), later,
      fun sound _ _ fresh found => absurd (sound.used found) fresh⟩

theorem constructor_dated {d : Deployment Bytes32} {w : World Bytes32}
    (deployed : constructor K d = .ok w) : Dated K w where
  made found := by cases (constructor_lookup deployed _).symm.trans found
  date found := by cases (constructor_lookup deployed _).symm.trans found

/-! ### Runs -/

variable {guard : Message Bytes32 → World Bytes32 → Prop} {c c' : Config Bytes32}

theorem Reachable.dated (reach : Reachable K guard c) : Dated K c.world :=
  (reach.holds (dates_rely guard) constructor_dated).1.2

/-- From one moment without open calls to another. -/
theorem Reachable.after (reach : Reachable K guard c) (run : (dice K).Reachable guard c c')
    (before : c.frames = []) (after : c'.frames = []) : After K c.world c'.world := by
  obtain ⟨_, nested⟩ := CallStack.Rely.sound (absolute (dates_rely guard))
    ⟨reach.sound, reach.dated⟩ before run
  rw [after] at nested
  exact nested.idle.2

/-- **The number of a request** lies between the block before it was made and the block where it is
found. -/
theorem Reachable.date (reach : Reachable K guard c) (run : (dice K).Reachable guard c c')
    (before : c.frames = []) (after : c'.frames = []) {req : Request Bytes32}
    (fresh : ¬ c.world.Used key) (found : c'.world.state.lookup K key = some req) :
    c.world.blockNumber ≤ req.blockNumber ∧ req.blockNumber ≤ c'.world.blockNumber := by
  refine ⟨(reach.after run before after).new reach.sound fresh found, ?_⟩
  obtain ⟨d, w, deployed, first⟩ := reach
  exact Reachable.dated ⟨d, w, deployed, .trans _ first run⟩ |>.date found

end Dates

end Dice
