/-
**A log beside the world.**

A log is written when an operation finishes at once, and is rolled back together with the world when
a pending operation is undone. It never influences what operations do.

* `Component.logged` — the component with a log.
* `step_unlog`, `Component.Reachable.unlog`, `Component.Reachable.relog` — forgetting the log turns
  the runs of the logged component into the runs of the component, and every run can be logged.
* `Rely.withLog` — what has to be shown for a relation between world and log to hold in every run, on top
  of facts that are already known of the world.
-/

import Dice.Library.CallStack

namespace CallStack

variable {W F K R E T G : Type}

namespace Component

variable (C : Component W F K R E T) (log : F → W → W → G → G)

/-- **The component with a log**, written by `log` from the operation and the worlds before and after
it. -/
def logged : Component (W × G) F K R E T where
  start operation pair :=
    match C.start operation pair.1 with
    | .reverted error => .reverted error
    | .done world => .done (world, log operation pair.1 world pair.2)
    | .calling world pending => .calling (world, pair.2) pending
  succeeded := C.succeeded
  resume pending reply pair :=
    match C.resume pending reply pair.1 with
    | .ok world => .ok (world, pair.2)
    | .error error => .error error
  idle passage pair := (C.idle passage pair.1, pair.2)

end Component

/-! ### Forgetting the log -/

/-- A frame without the logs. -/
def Frame.unlog (frame : Frame (W × G) K) : Frame W K :=
  ⟨frame.entry.1, frame.callWorld.1, frame.pending⟩

/-- A configuration without the logs. -/
def Config.unlog (config : Config (W × G) K) : Config W K :=
  ⟨config.world.1, config.frames.map Frame.unlog⟩

section Forgetting

variable (C : Component W F K R E T) (log : F → W → W → G → G)

theorem logged_resume_ok {pending : K} {reply : R} {pair : W × G} {world : W}
    (resumed : C.resume pending reply pair.1 = .ok world) :
    (C.logged log).resume pending reply pair = .ok (world, pair.2) := by
  simp only [Component.logged, resumed]

theorem logged_resume_error {pending : K} {reply : R} {pair : W × G} {error : E}
    (resumed : C.resume pending reply pair.1 = .error error) :
    (C.logged log).resume pending reply pair = .error error := by
  simp only [Component.logged, resumed]

theorem finish_unlog (frame : Frame (W × G) K) (reply : R) (pair : W × G) :
    ((C.logged log).finish frame reply pair).1 = C.finish frame.unlog reply pair.1 := by
  have world : ((C.logged log).resumeWorld frame reply pair).1 =
      C.resumeWorld frame.unlog reply pair.1 := by
    show (if C.succeeded reply then pair else frame.callWorld).1 =
      if C.succeeded reply then pair.1 else frame.callWorld.1
    split <;> rfl
  cases resumed : C.resume frame.pending reply
      (C.resumeWorld frame.unlog reply pair.1) with
  | ok finished =>
    have first : C.finish frame.unlog reply pair.1 = finished := Component.finish_ok resumed
    rw [← world] at resumed
    rw [first, Component.finish_ok (logged_resume_ok C log resumed)]
  | error error =>
    have first : C.finish frame.unlog reply pair.1 = frame.unlog.entry :=
      Component.finish_error resumed
    rw [← world] at resumed
    rw [first, Component.finish_error (logged_resume_error C log resumed)]
    rfl

/-- **The log changes nothing.** -/
theorem step_unlog (config : Config (W × G) K) (action : Action F R T) :
    ((C.logged log).step config action).unlog = C.step config.unlog action := by
  obtain ⟨⟨world, g⟩, frames⟩ := config
  cases action with
  | call operation =>
    cases started : C.start operation world with
    | reverted error =>
      have started' : (C.logged log).start operation (world, g) = .reverted error := by
        simp only [Component.logged, started]
      rw [Component.step_reverted started', Component.step_reverted started]
    | done world' =>
      have started' : (C.logged log).start operation (world, g) =
          .done (world', log operation world world' g) := by
        simp only [Component.logged, started]
      rw [Component.step_done started', Component.step_done started]
      rfl
    | calling world' pending =>
      have started' : (C.logged log).start operation (world, g) =
          .calling (world', g) pending := by
        simp only [Component.logged, started]
      rw [Component.step_calling started', Component.step_calling started]
      rfl
  | ret reply =>
    cases frames with
    | nil => rfl
    | cons frame rest =>
      show (⟨((C.logged log).finish frame reply (world, g)).1, _⟩ : Config W K) = ⟨_, _⟩
      rw [finish_unlog]
      rfl
  | abort => cases frames <;> rfl
  | idle passage => cases frames <;> rfl

variable {C log} {guard : F → W → Prop}

/-- A run with a log is a run. -/
theorem Component.Reachable.unlog {origin config : Config (W × G) K}
    (reach : (C.logged log).Reachable (fun operation pair => guard operation pair.1) origin
      config) : C.Reachable guard origin.unlog config.unlog := by
  induction reach with
  | refl => exact .refl
  | @step config action _ allowed ih =>
    rw [step_unlog]
    refine .step action ih ?_
    cases action with
    | call operation => exact allowed
    | _ => trivial

/-- **Every run can be logged.** -/
theorem Component.Reachable.relog {origin : Config (W × G) K} {config : Config W K}
    (log : F → W → W → G → G) (reach : C.Reachable guard origin.unlog config) :
    ∃ config' : Config (W × G) K, config'.unlog = config ∧
      (C.logged log).Reachable (fun operation pair => guard operation pair.1) origin config' := by
  induction reach with
  | refl => exact ⟨origin, rfl, .refl⟩
  | step action _ allowed ih =>
    obtain ⟨config', rfl, reach'⟩ := ih
    refine ⟨_, step_unlog C log config' action, .step action reach' ?_⟩
    cases action with
    | call operation => exact allowed
    | _ => trivial

end Forgetting

/-! ### World and log together -/

section Rely

variable {C : Component W F K R E T} {log : F → W → W → G → G} {guard : F → W → Prop}
variable {I : W → Prop} {Q : W → W → Prop} {L : W → G → Prop}

theorem logged_done {operation : F} {pair after : W × G}
    (started : (C.logged log).start operation pair = .done after) :
    C.start operation pair.1 = .done after.1 ∧
      after.2 = log operation pair.1 after.1 pair.2 := by
  simp only [Component.logged] at started
  split at started
  · cases started
  · next world first =>
    cases started
    exact ⟨first, rfl⟩
  · cases started

theorem logged_calling {operation : F} {pair after : W × G} {pending : K}
    (started : (C.logged log).start operation pair = .calling after pending) :
    C.start operation pair.1 = .calling after.1 pending ∧ after.2 = pair.2 := by
  simp only [Component.logged] at started
  split at started
  · cases started
  · cases started
  · next world waiting first =>
    cases started
    exact ⟨first, rfl⟩

theorem logged_resume {reply : R} {pair after : W × G} {pending : K}
    (resumed : (C.logged log).resume pending reply pair = .ok after) :
    C.resume pending reply pair.1 = .ok after.1 ∧ after.2 = pair.2 := by
  simp only [Component.logged] at resumed
  split at resumed
  · next world first =>
    cases resumed
    exact ⟨first, rfl⟩
  · cases resumed

/-- **A relation between world and log.** Finishing operations write the log; calls and what follows
them leave it. -/
theorem Rely.withLog (known : AbsoluteRely C guard I Q)
    (done : ∀ {f w w' g}, I w → L w g → guard f w → C.start f w = .done w' →
      L w' (log f w w' g))
    (calling : ∀ {f w w₁ k g}, I w → L w g → guard f w → C.start f w = .calling w₁ k → L w₁ g)
    (resume : ∀ {f w w₁ k r w₂ w₃ g}, I w → C.start f w = .calling w₁ k → I w₂ → L w₂ g →
      C.resume k r w₂ = .ok w₃ → L w₃ g)
    (idle : ∀ {t w g}, I w → L w g → L (C.idle t w) g) :
    AbsoluteRely (C.logged log) (fun f pair => guard f pair.1)
      (fun pair => I pair.1 ∧ L pair.1 pair.2) fun pair pair' => Q pair.1 pair'.1 where
  refl pair := known.refl pair.1
  trans p q r := known.trans p.1 q.1 r.1
  done := by
    intro f pair pair' _ holds allowed started _ _
    obtain ⟨first, second⟩ := logged_done started
    obtain ⟨invariant, related⟩ := known.done trivial holds.1 allowed first trivial trivial
    refine ⟨⟨invariant, ?_⟩, related⟩
    rw [second]
    exact done holds.1 holds.2 allowed first
  calling := by
    intro f pair pair' k _ holds allowed started _
    obtain ⟨first, second⟩ := logged_calling started
    refine ⟨known.calling trivial holds.1 allowed first trivial, ?_⟩
    rw [second]
    exact calling holds.1 holds.2 allowed first
  succeed := by
    intro f p p₁ k r p₂ p₃ _ holds allowed started _ atCall _ atReturn _ between success resumed _ _
    obtain ⟨first, _⟩ := logged_calling started
    obtain ⟨rest, second⟩ := logged_resume resumed
    obtain ⟨invariant, related⟩ := known.succeed trivial holds.1 allowed first trivial atCall.1
      trivial atReturn.1 trivial between success rest trivial trivial
    refine ⟨⟨invariant, ?_⟩, related⟩
    rw [second]
    exact resume holds.1 first atReturn.1 atReturn.2 rest
  fail := by
    intro f p p₁ k r p₃ _ holds allowed started _ atCall failure resumed _ _
    obtain ⟨first, _⟩ := logged_calling started
    obtain ⟨rest, second⟩ := logged_resume resumed
    obtain ⟨invariant, related⟩ := known.fail trivial holds.1 allowed first trivial atCall.1
      failure rest trivial trivial
    refine ⟨⟨invariant, ?_⟩, related⟩
    rw [second]
    exact resume holds.1 first atCall.1 atCall.2 rest
  idle := by
    intro t pair _ holds _ _
    obtain ⟨invariant, related⟩ := known.idle trivial holds.1 trivial trivial (t := t)
    exact ⟨⟨invariant, idle holds.1 holds.2⟩, related⟩

end Rely

end CallStack
