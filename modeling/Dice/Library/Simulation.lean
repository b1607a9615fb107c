/-
**Components inside larger systems.**

A system may contain a component that is called, and that calls out, together with others. What was
shown of the component alone holds in the system if every operation of the system is, for the
component, one of its own.

* `Component.Whole` — an operation that runs to its end with nothing in between: nothing happens, it
  finishes at once, or its call returns immediately.
* `Simulation` — the operations of a system as operations of a component: those that finish are
  whole, those that call out open a frame of the component, and replies go on to it.
* `Simulation.rely` — invariants and rely relations of the component are such of the system.
* `Simulation.reachable` — the runs of the system are runs of the component.
-/

import Dice.Library.CallStack

namespace CallStack

variable {W F K R E T W' F' K' R' E' T' : Type}

namespace Component

variable (A : Component W' F' K' R' E' T') (guard : F' → W' → Prop)

/-- An operation without anything between its halves. -/
inductive Whole : W' → W' → Prop
  | nothing (w : W') : Whole w w
  | done {f : F'} {w w' : W'} : guard f w → A.start f w = .done w' → Whole w w'
  | replied {f : F'} {k : K'} {r : R'} {w w₁ w' : W'} : guard f w →
      A.start f w = .calling w₁ k → A.resume k r w₁ = .ok w' → Whole w w'

variable {A guard}

/-- What operations keep, whole operations keep. -/
theorem Whole.rely {J : W' → Prop} {S : W' → W' → Prop} (rely : AbsoluteRely A guard J S)
    {w w' : W'} (whole : A.Whole guard w w') (holds : J w) : J w' ∧ S w w' := by
  cases whole with
  | nothing => exact ⟨holds, rely.refl w⟩
  | done allowed started => exact rely.done trivial holds allowed started trivial trivial
  | @replied f k r _ w₁ _ allowed started resumed =>
    have called := rely.calling trivial holds allowed started trivial
    cases success : A.succeeded r with
    | true =>
      exact rely.succeed trivial holds allowed started trivial called trivial called trivial
        (rely.refl w₁) success resumed trivial trivial
    | false =>
      exact rely.fail trivial holds allowed started trivial called success resumed trivial trivial

/-- One step is a run. -/
theorem Reachable.one (config : Config W' K') (action : Action F' R' T')
    (allowed : Allowed guard config action) : A.Reachable guard config (A.step config action) :=
  .step action .refl allowed

/-- A whole operation is a run at any depth. -/
theorem Whole.reachable {w w' : W'} (whole : A.Whole guard w w') (frames : List (Frame W' K')) :
    A.Reachable guard ⟨w, frames⟩ ⟨w', frames⟩ := by
  cases whole with
  | nothing => exact .refl
  | @done f _ _ allowed started =>
    have step := Reachable.one (A := A) ⟨w, frames⟩ (.call f) allowed
    rwa [show A.step ⟨w, frames⟩ (.call f) = ⟨w', frames⟩ from step_done started] at step
  | @replied f k r _ w₁ _ allowed started resumed =>
    have first := Reachable.one (A := A) ⟨w, frames⟩ (.call f) allowed
    rw [show A.step ⟨w, frames⟩ (.call f) = ⟨w₁, ⟨w, w₁, k⟩ :: frames⟩ from
      step_calling started] at first
    have second := Reachable.step (C := A) (.ret r) first trivial
    have same : A.resumeWorld ⟨w, w₁, k⟩ r w₁ = w₁ := by
      unfold resumeWorld
      split <;> rfl
    have finished : A.finish ⟨w, w₁, k⟩ r w₁ = w' := finish_ok (by rw [same]; exact resumed)
    have end_eq : A.step ⟨w₁, ⟨w, w₁, k⟩ :: frames⟩ (.ret r) = ⟨w', frames⟩ := by
      simp only [step, finished]
    rwa [end_eq] at second

end Component

/-- Obligations that were met without knowing anything are met relative to anything. -/
theorem Rely.relative {A : Component W' F' K' R' E' T'} {guard : F' → W' → Prop}
    {I J : W' → Prop} {Q S : W' → W' → Prop} (absolute : AbsoluteRely A guard J S) :
    Rely A guard I Q J S where
  refl := absolute.refl
  trans := absolute.trans
  done _ holds allowed started _ _ := absolute.done trivial holds allowed started trivial trivial
  calling _ holds allowed started _ := absolute.calling trivial holds allowed started trivial
  succeed _ holds allowed started _ atCall _ atReturn _ between success resumed _ _ :=
    absolute.succeed trivial holds allowed started trivial atCall trivial atReturn trivial between
      success resumed trivial trivial
  fail _ holds allowed started _ atCall failure resumed _ _ :=
    absolute.fail trivial holds allowed started trivial atCall failure resumed trivial trivial
  idle _ holds _ _ := absolute.idle trivial holds trivial trivial

/-- **The operations of a system as operations of a component of it.** -/
structure Simulation (C : Component W F K R E T) (A : Component W' F' K' R' E' T')
    (guard : F → W → Prop) (guard' : F' → W' → Prop) (world : W → W') (pending : K → K') : Prop where
  done : ∀ {f w w'}, guard f w → C.start f w = .done w' → A.Whole guard' (world w) (world w')
  calling : ∀ {f w w₁ k}, guard f w → C.start f w = .calling w₁ k →
    ∃ f', guard' f' (world w) ∧ A.start f' (world w) = .calling (world w₁) (pending k)
  resume : ∀ {k r w w'}, C.resume k r w = .ok w' →
    ∃ r', A.succeeded r' = C.succeeded r ∧ A.resume (pending k) r' (world w) = .ok (world w')
  idle : ∀ t w, ∃ t', world (C.idle t w) = A.idle t' (world w)

namespace Simulation

variable {C : Component W F K R E T} {A : Component W' F' K' R' E' T'} {guard : F → W → Prop}
variable {guard' : F' → W' → Prop} {world : W → W'} {pending : K → K'}

/-- **Invariants carry over.** -/
theorem rely (sim : Simulation C A guard guard' world pending) {J : W' → Prop}
    {S : W' → W' → Prop} (known : AbsoluteRely A guard' J S) :
    AbsoluteRely C guard (fun w => J (world w)) (fun u v => S (world u) (world v)) where
  refl w := known.refl (world w)
  trans u v w := known.trans (world u) (world v) (world w)
  done _ holds allowed started _ _ := (sim.done allowed started).rely known holds
  calling := by
    intro f w w₁ k _ holds allowed started _
    obtain ⟨f', allowed', started'⟩ := sim.calling allowed started
    exact known.calling trivial holds allowed' started' trivial
  succeed := by
    intro f w w₁ k r w₂ w₃ _ holds allowed started _ atCall _ atReturn _ between success resumed _ _
    obtain ⟨f', allowed', started'⟩ := sim.calling allowed started
    obtain ⟨r', same, resumed'⟩ := sim.resume resumed
    exact known.succeed trivial holds allowed' started' trivial atCall trivial atReturn trivial
      between (same.trans success) resumed' trivial trivial
  fail := by
    intro f w w₁ k r w₃ _ holds allowed started _ atCall failure resumed _ _
    obtain ⟨f', allowed', started'⟩ := sim.calling allowed started
    obtain ⟨r', same, resumed'⟩ := sim.resume resumed
    exact known.fail trivial holds allowed' started' trivial atCall (same.trans failure) resumed'
      trivial trivial
  idle := by
    intro t w _ holds _ _
    obtain ⟨t', same⟩ := sim.idle t w
    rw [same]
    exact known.idle trivial holds trivial trivial

/-! Runs carry over as well. -/

/-- A configuration of the system as one of the component. -/
def image (world : W → W') (pending : K → K') (c : Config W K) : Config W' K' where
  world := world c.world
  frames := c.frames.map fun frame =>
    ⟨world frame.entry, world frame.callWorld, pending frame.pending⟩

/-- A reply that the system uses, or an operation that it undoes. -/
theorem finish (sim : Simulation C A guard guard' world pending) (frame : Frame W K) (reply : R)
    (w : W) : world (C.finish frame reply w) = world frame.entry ∨ ∃ reply',
      A.finish ⟨world frame.entry, world frame.callWorld, pending frame.pending⟩ reply' (world w) =
        world (C.finish frame reply w) := by
  cases resumed : C.resume frame.pending reply (C.resumeWorld frame reply w) with
  | error error =>
    rw [Component.finish_error resumed]
    exact .inl rfl
  | ok finished =>
    obtain ⟨reply', same, resumed'⟩ := sim.resume resumed
    have there : A.resumeWorld ⟨world frame.entry, world frame.callWorld, pending frame.pending⟩
        reply' (world w) = world (C.resumeWorld frame reply w) := by
      simp only [Component.resumeWorld, same]
      split <;> rfl
    rw [Component.finish_ok resumed]
    exact .inr ⟨reply', Component.finish_ok (by rw [there]; exact resumed')⟩

/-- One step of the system is a run of the component. -/
theorem step (sim : Simulation C A guard guard' world pending) (c : Config W K)
    (action : Action F R T) (allowed : Component.Allowed guard c action) :
    A.Reachable guard' (image world pending c) (image world pending (C.step c action)) := by
  obtain ⟨w, frames⟩ := c
  cases action with
  | call f =>
    cases started : C.start f w with
    | reverted error =>
      rw [show C.step ⟨w, frames⟩ (.call f) = ⟨w, frames⟩ from Component.step_reverted started]
      exact .refl
    | done w' =>
      rw [show C.step ⟨w, frames⟩ (.call f) = ⟨w', frames⟩ from Component.step_done started]
      exact (sim.done allowed started).reachable _
    | calling w₁ k =>
      obtain ⟨f', allowed', started'⟩ := sim.calling allowed started
      rw [show C.step ⟨w, frames⟩ (.call f) = ⟨w₁, ⟨w, w₁, k⟩ :: frames⟩ from
        Component.step_calling started]
      have first := Component.Reachable.one (A := A) (image world pending ⟨w, frames⟩) (.call f')
        allowed'
      have same := Component.step_calling (C := A)
        (show A.start f' (image world pending ⟨w, frames⟩).world = _ from started')
      rwa [same] at first
  | ret reply =>
    cases frames with
    | nil => exact .refl
    | cons frame rest =>
      rcases sim.finish frame reply w with undone | ⟨reply', finished⟩
      · have first : A.Reachable guard' _ _ := Component.Reachable.one
          (image world pending ⟨w, frame :: rest⟩) .abort trivial
        simpa only [image, Component.step, List.map_cons, undone] using first
      · have first : A.Reachable guard' _ _ := Component.Reachable.one
          (image world pending ⟨w, frame :: rest⟩) (.ret reply') trivial
        simpa only [image, Component.step, List.map_cons, finished] using first
  | abort =>
    cases frames with
    | nil => exact .refl
    | cons frame rest =>
      have first : A.Reachable guard' _ _ := Component.Reachable.one
        (image world pending ⟨w, frame :: rest⟩) .abort trivial
      simpa only [image, Component.step, List.map_cons] using first
  | idle passage =>
    cases frames with
    | cons frame rest => exact .refl
    | nil =>
      obtain ⟨passage', same⟩ := sim.idle passage w
      have first : A.Reachable guard' _ _ := Component.Reachable.one
        (image world pending ⟨w, []⟩) (.idle passage') trivial
      simpa only [image, Component.step, List.map_nil, same] using first

/-- **Runs carry over.** -/
theorem reachable (sim : Simulation C A guard guard' world pending) {origin c : Config W K}
    (run : C.Reachable guard origin c) :
    A.Reachable guard' (image world pending origin) (image world pending c) := by
  induction run with
  | refl => exact .refl
  | step action _ allowed ih => exact Component.Reachable.trans A ih (sim.step _ action allowed)

end Simulation

end CallStack
