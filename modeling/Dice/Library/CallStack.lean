/-
**Operations that call out before they are finished, and roll back when they fail.**

A component offers atomic operations on a world. An operation either refuses, or finishes at once,
or runs up to an external call and leaves the rest of its work pending. While the call is out, the
callee may start any number of further operations, nested to any depth. When it returns, the rest
of the pending operation runs: on the world as the callee left it if the call succeeded, and on the
world as it was when the call was made if the callee failed. If the rest refuses, the whole
operation is undone.

* `Config` — the current world and the stack of pending operations, each with the two worlds it may
  fall back to.
* `Component.Reachable` — the configurations of a run, where a `guard` may restrict which
  operations the environment starts.
* `Rely` — what has to be shown of each operation alone: an invariant `I` of every world, and a
  relation `R` between the world an operation starts in and the world it ends in. `R` is also what
  the rest of an operation may assume of everything that happened while its call was out.
* `Rely.sound` — the invariant holds of every reachable world, and the stack is `Nested`: every
  frame's call world is `R`-related to the world the next frame was entered in.
* `Nested.during` — a relation that also survives the first halves of operations relates every open
  frame's call world to the current world, whatever is open above it.
* `Continues` — runs that do not undo any operation that was open when they began, and the rule
  `Continues.stable` for properties that no later operation can destroy.
-/

import Mathlib.Logic.Basic
import Mathlib.Tactic.Common

namespace CallStack

variable {W F K R E T : Type}

/-- The first half of an operation: it refuses, finishes, or makes a call and waits for the reply. -/
inductive Outcome (W K E : Type) where
  | reverted (error : E)
  | done (world : W)
  | calling (world : W) (pending : K)
  deriving Repr, DecidableEq

/-- A component: operations `F`, pending work `K`, replies `R`, errors `E`, and the ways `T` in
which the world changes while no operation is running. -/
structure Component (W F K R E T : Type) where
  start : F → W → Outcome W K E
  succeeded : R → Bool
  resume : K → R → W → Except E W
  idle : T → W → W

/-- A pending operation, the world it was entered in and the world its call was made in. -/
structure Frame (W K : Type) where
  entry : W
  callWorld : W
  pending : K
  deriving Repr, DecidableEq

/-- The current world and the open operations, innermost first. -/
structure Config (W K : Type) where
  world : W
  frames : List (Frame W K)
  deriving Repr, DecidableEq

/-- What the environment does next: start an operation, let the innermost call return, let the
innermost operation fail on its own (out of gas, for example), or let time pass. -/
inductive Action (F R T : Type) where
  | call (operation : F)
  | ret (reply : R)
  | abort
  | idle (passage : T)

namespace Component

variable (C : Component W F K R E T)

/-- The world in which the rest of a pending operation runs. -/
def resumeWorld (frame : Frame W K) (reply : R) (world : W) : W :=
  if C.succeeded reply then world else frame.callWorld

/-- The world after a pending operation has had its reply. -/
def finish (frame : Frame W K) (reply : R) (world : W) : W :=
  match C.resume frame.pending reply (C.resumeWorld frame reply world) with
  | .ok finished => finished
  | .error _ => frame.entry

/-- One step. An action that is not enabled changes nothing. -/
def step (config : Config W K) : Action F R T → Config W K
  | .call operation =>
      match C.start operation config.world with
      | .reverted _ => config
      | .done world => { config with world }
      | .calling world pending => ⟨world, ⟨config.world, world, pending⟩ :: config.frames⟩
  | .ret reply =>
      match config.frames with
      | [] => config
      | frame :: rest => ⟨C.finish frame reply config.world, rest⟩
  | .abort =>
      match config.frames with
      | [] => config
      | frame :: rest => ⟨frame.entry, rest⟩
  | .idle passage =>
      match config.frames with
      | [] => ⟨C.idle passage config.world, []⟩
      | _ :: _ => config

section Steps

variable {C} {config : Config W K} {operation : F}

theorem step_reverted {error : E} (started : C.start operation config.world = .reverted error) :
    C.step config (.call operation) = config := by
  simp only [step, started]

theorem step_done {world : W} (started : C.start operation config.world = .done world) :
    C.step config (.call operation) = ⟨world, config.frames⟩ := by
  simp only [step, started]

theorem step_calling {world : W} {pending : K}
    (started : C.start operation config.world = .calling world pending) :
    C.step config (.call operation) =
      ⟨world, ⟨config.world, world, pending⟩ :: config.frames⟩ := by
  simp only [step, started]

/-- A reply on which the rest of the operation completes. -/
theorem finish_ok {frame : Frame W K} {reply : R} {world finished : W}
    (resumed : C.resume frame.pending reply (C.resumeWorld frame reply world) = .ok finished) :
    C.finish frame reply world = finished := by
  simp only [finish, resumed]

/-- A reply on which it refuses. -/
theorem finish_error {frame : Frame W K} {reply : R} {world : W} {error : E}
    (resumed : C.resume frame.pending reply (C.resumeWorld frame reply world) = .error error) :
    C.finish frame reply world = frame.entry := by
  simp only [finish, resumed]

end Steps

/-- A run on a list of actions. -/
def run (config : Config W K) (actions : List (Action F R T)) : Config W K :=
  actions.foldl C.step config

/-- The guard restricts the operations that are started; everything else is always allowed. -/
def Allowed (guard : F → W → Prop) (config : Config W K) : Action F R T → Prop
  | .call operation => guard operation config.world
  | _ => True

instance decideAllowed (guard : F → W → Prop) [∀ f w, Decidable (guard f w)]
    (config : Config W K) (action : Action F R T) : Decidable (Allowed guard config action) :=
  match action with
  | .call operation => inferInstanceAs (Decidable (guard operation config.world))
  | .ret _ => inferInstanceAs (Decidable True)
  | .abort => inferInstanceAs (Decidable True)
  | .idle _ => inferInstanceAs (Decidable True)

/-- The configurations of the runs from `origin` whose operations all meet the guard. -/
inductive Reachable (guard : F → W → Prop) (origin : Config W K) : Config W K → Prop
  | refl : Reachable guard origin origin
  | step {config : Config W K} (action : Action F R T) :
      Reachable guard origin config → Allowed guard config action →
      Reachable guard origin (C.step config action)

/-- Every action of a list is allowed where it is taken. -/
def RunAllowed (guard : F → W → Prop) : Config W K → List (Action F R T) → Prop
  | _, [] => True
  | config, action :: rest =>
      Allowed guard config action ∧ RunAllowed guard (C.step config action) rest

instance decideRunAllowed (guard : F → W → Prop) [∀ f w, Decidable (guard f w)] :
    ∀ (config : Config W K) (actions : List (Action F R T)),
      Decidable (C.RunAllowed guard config actions)
  | _, [] => inferInstanceAs (Decidable True)
  | config, action :: rest =>
      haveI := decideRunAllowed guard (C.step config action) rest
      inferInstanceAs (Decidable (Allowed guard config action ∧
        C.RunAllowed guard (C.step config action) rest))

theorem Reachable.trans {guard : F → W → Prop} {origin middle config : Config W K}
    (first : C.Reachable guard origin middle) (second : C.Reachable guard middle config) :
    C.Reachable guard origin config := by
  induction second with
  | refl => exact first
  | step action _ allowed ih => exact .step action ih allowed

/-- A weaker guard allows more runs. -/
theorem Reachable.mono {guard guard' : F → W → Prop} (weaker : ∀ f w, guard f w → guard' f w)
    {origin config : Config W K} (reach : C.Reachable guard origin config) :
    C.Reachable guard' origin config := by
  induction reach with
  | refl => exact .refl
  | @step config action _ allowed ih =>
    refine .step action ih ?_
    cases action with
    | call operation => exact weaker operation config.world allowed
    | ret _ => trivial
    | abort => trivial
    | idle _ => trivial

/-- An allowed list of actions runs to a reachable configuration. -/
theorem Reachable.of_run {guard : F → W → Prop} {actions : List (Action F R T)} :
    ∀ {origin : Config W K}, C.RunAllowed guard origin actions →
      C.Reachable guard origin (C.run origin actions) := by
  induction actions with
  | nil => exact fun _ => .refl
  | cons action rest ih =>
    intro origin allowed
    exact Reachable.trans C (.step action .refl allowed.1) (ih allowed.2)

/-- Without a guard every list of actions is a run. -/
theorem Reachable.of_actions {origin : Config W K} (actions : List (Action F R T)) :
    C.Reachable (fun _ _ => True) origin (C.run origin actions) := by
  refine Reachable.of_run C ?_
  induction actions generalizing origin with
  | nil => trivial
  | cons action rest ih =>
    refine ⟨?_, ih⟩
    cases action <;> trivial

end Component

/-! ### Invariants and rely relations -/

section Rely

variable {C : Component W F K R E T} {guard : F → W → Prop}
variable {I J : W → Prop} {Q S : W → W → Prop}

/-- **The proof obligations of one operation at a time**, relative to facts `I` and `Q` that are
already known. `J` is an invariant of every world, also of the worlds in which calls are made; `S`
relates the world an operation starts in to the world it ends in. The rest of an operation may use
`Q` and `S` between the world of its call and the world it is resumed in. -/
structure Rely (C : Component W F K R E T) (guard : F → W → Prop) (I : W → Prop) (Q : W → W → Prop)
    (J : W → Prop) (S : W → W → Prop) : Prop where
  refl : ∀ w, S w w
  trans : ∀ u v w, S u v → S v w → S u w
  done : ∀ {f w w'}, I w → J w → guard f w → C.start f w = .done w' → I w' → Q w w' →
    J w' ∧ S w w'
  calling : ∀ {f w w₁ k}, I w → J w → guard f w → C.start f w = .calling w₁ k → I w₁ → J w₁
  succeed : ∀ {f w w₁ k r w₂ w₃}, I w → J w → guard f w → C.start f w = .calling w₁ k →
    I w₁ → J w₁ → I w₂ → J w₂ → Q w₁ w₂ → S w₁ w₂ → C.succeeded r = true →
    C.resume k r w₂ = .ok w₃ → I w₃ → Q w w₃ → J w₃ ∧ S w w₃
  fail : ∀ {f w w₁ k r w₃}, I w → J w → guard f w → C.start f w = .calling w₁ k →
    I w₁ → J w₁ → C.succeeded r = false →
    C.resume k r w₁ = .ok w₃ → I w₃ → Q w w₃ → J w₃ ∧ S w w₃
  idle : ∀ {t w}, I w → J w → I (C.idle t w) → Q w (C.idle t w) →
    J (C.idle t w) ∧ S w (C.idle t w)

/-- Obligations relative to nothing. -/
abbrev AbsoluteRely (C : Component W F K R E T) (guard : F → W → Prop) (J : W → Prop)
    (S : W → W → Prop) : Prop :=
  Rely C guard (fun _ => True) (fun _ _ => True) J S

/-- **Layering.** Facts shown relative to known ones join them. -/
theorem Rely.extend (known : AbsoluteRely C guard I Q) (more : Rely C guard I Q J S) :
    AbsoluteRely C guard (fun w => I w ∧ J w) (fun w w' => Q w w' ∧ S w w') where
  refl w := ⟨known.refl w, more.refl w⟩
  trans u v w first second :=
    ⟨known.trans u v w first.1 second.1, more.trans u v w first.2 second.2⟩
  done := by
    intro f w w' _ holds allowed started _ _
    obtain ⟨invariant, related⟩ := known.done trivial holds.1 allowed started trivial trivial
    obtain ⟨more₁, more₂⟩ := more.done holds.1 holds.2 allowed started invariant related
    exact ⟨⟨invariant, more₁⟩, related, more₂⟩
  calling := by
    intro f w w₁ k _ holds allowed started _
    have invariant := known.calling trivial holds.1 allowed started trivial
    exact ⟨invariant, more.calling holds.1 holds.2 allowed started invariant⟩
  succeed := by
    intro f w w₁ k r w₂ w₃ _ holds allowed started _ atCall _ atReturn _ between success resumed _ _
    obtain ⟨invariant, related⟩ := known.succeed trivial holds.1 allowed started trivial atCall.1
      trivial atReturn.1 trivial between.1 success resumed trivial trivial
    obtain ⟨more₁, more₂⟩ := more.succeed holds.1 holds.2 allowed started atCall.1 atCall.2
      atReturn.1 atReturn.2 between.1 between.2 success resumed invariant related
    exact ⟨⟨invariant, more₁⟩, related, more₂⟩
  fail := by
    intro f w w₁ k r w₃ _ holds allowed started _ atCall failure resumed _ _
    obtain ⟨invariant, related⟩ := known.fail trivial holds.1 allowed started trivial atCall.1
      failure resumed trivial trivial
    obtain ⟨more₁, more₂⟩ := more.fail holds.1 holds.2 allowed started atCall.1 atCall.2
      failure resumed invariant related
    exact ⟨⟨invariant, more₁⟩, related, more₂⟩
  idle := by
    intro t w _ holds _ _
    obtain ⟨invariant, related⟩ := known.idle trivial holds.1 trivial trivial (t := t)
    obtain ⟨more₁, more₂⟩ := more.idle holds.1 holds.2 invariant related
    exact ⟨⟨invariant, more₁⟩, related, more₂⟩

/-- Facts shown without a guard hold under every guard. -/
theorem Rely.restrict (known : Rely C (fun _ _ => True) I Q J S) : Rely C guard I Q J S where
  refl := known.refl
  trans := known.trans
  done i j _ := known.done i j trivial
  calling i j _ := known.calling i j trivial
  succeed i j _ := known.succeed i j trivial
  fail i j _ := known.fail i j trivial
  idle := known.idle

/-- The stack under a current world: every frame was opened by an allowed operation, and what
happened at its level since is `S`-related to its call world. -/
inductive Nested (C : Component W F K R E T) (guard : F → W → Prop) (J : W → Prop)
    (S : W → W → Prop) (origin : W) : W → List (Frame W K) → Prop
  | nil {w : W} : S origin w → Nested C guard J S origin w []
  | cons {w : W} {frame : Frame W K} {rest : List (Frame W K)} (operation : F) :
      guard operation frame.entry → J frame.entry → J frame.callWorld →
      C.start operation frame.entry = .calling frame.callWorld frame.pending →
      S frame.callWorld w → Nested C guard J S origin frame.entry rest →
      Nested C guard J S origin w (frame :: rest)

/-- More may happen at the level of the innermost frame. -/
theorem Nested.advance (trans : ∀ u v w, S u v → S v w → S u w) {origin w w' : W}
    {frames : List (Frame W K)} (nested : Nested C guard J S origin w frames) (more : S w w') :
    Nested C guard J S origin w' frames := by
  cases nested with
  | nil related => exact .nil (trans _ _ _ related more)
  | cons operation allowed atEntry atCall started related rest =>
    exact .cons operation allowed atEntry atCall started (trans _ _ _ related more) rest

/-- One step keeps the invariant and the nesting. -/
theorem Rely.sound_step (rely : AbsoluteRely C guard J S) {origin world : W}
    {frames : List (Frame W K)} (holds : J world)
    (nested : Nested C guard J S origin world frames) (action : Action F R T)
    (allowed : Component.Allowed guard ⟨world, frames⟩ action) :
    J (C.step ⟨world, frames⟩ action).world ∧
      Nested C guard J S origin (C.step ⟨world, frames⟩ action).world
        (C.step ⟨world, frames⟩ action).frames := by
  cases action with
  | call operation =>
    cases started : C.start operation world with
    | reverted error =>
      simp only [Component.step, started]
      exact ⟨holds, nested⟩
    | done world' =>
      obtain ⟨holds', related⟩ := rely.done trivial holds allowed started trivial trivial
      simp only [Component.step, started]
      exact ⟨holds', nested.advance rely.trans related⟩
    | calling world' pending =>
      have holds' := rely.calling trivial holds allowed started trivial
      simp only [Component.step, started]
      exact ⟨holds', .cons operation allowed holds holds' started (rely.refl _) nested⟩
  | ret reply =>
    cases nested with
    | nil related => exact ⟨holds, .nil related⟩
    | @cons _ frame rest operation allowed' atEntry atCall started related below =>
      simp only [Component.step, Component.finish, Component.resumeWorld]
      cases success : C.succeeded reply with
      | true =>
        simp only [if_true]
        cases resumed : C.resume frame.pending reply world with
        | error _ => exact ⟨atEntry, below⟩
        | ok finished =>
          obtain ⟨holds', related'⟩ := rely.succeed trivial atEntry allowed' started trivial
            atCall trivial holds trivial related success resumed trivial trivial
          exact ⟨holds', below.advance rely.trans related'⟩
      | false =>
        simp only [Bool.false_eq_true, if_false]
        cases resumed : C.resume frame.pending reply frame.callWorld with
        | error _ => exact ⟨atEntry, below⟩
        | ok finished =>
          obtain ⟨holds', related'⟩ := rely.fail trivial atEntry allowed' started trivial
            atCall success resumed trivial trivial
          exact ⟨holds', below.advance rely.trans related'⟩
  | abort =>
    cases nested with
    | nil related => exact ⟨holds, .nil related⟩
    | cons operation allowed' atEntry atCall started related below => exact ⟨atEntry, below⟩
  | idle passage =>
    cases nested with
    | nil related =>
      obtain ⟨holds', related'⟩ := rely.idle trivial holds trivial trivial (t := passage)
      exact ⟨holds', .nil (rely.trans _ _ _ related related')⟩
    | cons operation allowed' atEntry atCall started related below =>
      exact ⟨holds, .cons operation allowed' atEntry atCall started related below⟩

/-- **Soundness.** The invariant holds in every reachable world and the stack is nested. -/
theorem Rely.sound (rely : AbsoluteRely C guard J S) {origin config : Config W K}
    (start : J origin.world) (empty : origin.frames = [])
    (reach : C.Reachable guard origin config) :
    J config.world ∧ Nested C guard J S origin.world config.world config.frames := by
  induction reach with
  | refl => exact ⟨start, by rw [empty]; exact .nil (rely.refl _)⟩
  | step action _ allowed ih => exact rely.sound_step ih.1 ih.2 action allowed

/-- The facts about an open frame. -/
theorem Nested.frame {origin w : W} {frames : List (Frame W K)}
    (nested : Nested C guard J S origin w frames) :
    ∀ frame ∈ frames, J frame.entry ∧ J frame.callWorld ∧ ∃ operation,
      guard operation frame.entry ∧
        C.start operation frame.entry = .calling frame.callWorld frame.pending := by
  induction nested with
  | nil related => exact fun _ member => by cases member
  | cons operation allowed atEntry atCall started related _ ih =>
    intro frame member
    rcases List.mem_cons.mp member with rfl | member
    · exact ⟨atEntry, atCall, operation, allowed, started⟩
    · exact ih frame member

/-- The innermost frame, and what happened while its call was out. -/
theorem Nested.top {origin w : W} {frame : Frame W K} {rest : List (Frame W K)}
    (nested : Nested C guard J S origin w (frame :: rest)) :
    J frame.entry ∧ J frame.callWorld ∧ S frame.callWorld w ∧ ∃ operation,
      guard operation frame.entry ∧
        C.start operation frame.entry = .calling frame.callWorld frame.pending := by
  cases nested with
  | cons operation allowed atEntry atCall started related below =>
    exact ⟨atEntry, atCall, related, operation, allowed, started⟩

/-- When nothing is open, the whole run is one `S`-step from its origin. -/
theorem Nested.idle {origin w : W} (nested : Nested C guard J S origin w []) : S origin w := by
  cases nested with
  | nil related => exact related

/-- **While a call is out.** A relation that follows from `S` between the ends of an operation and
that first halves respect relates every open frame's call world to the current world. -/
theorem Nested.during {D : W → W → Prop} (trans : ∀ u v w, D u v → D v w → D u w)
    (whole : ∀ {u v}, S u v → D u v)
    (half : ∀ {f w w₁ k}, J w → C.start f w = .calling w₁ k → D w w₁)
    {origin w : W} {frames : List (Frame W K)} (nested : Nested C guard J S origin w frames) :
    ∀ frame ∈ frames, D frame.callWorld w := by
  induction nested with
  | nil related => exact fun _ member => by cases member
  | @cons w top rest operation allowed atEntry atCall started related _ ih =>
    intro frame member
    rcases List.mem_cons.mp member with rfl | member
    · exact whole related
    · exact trans _ _ _ (ih frame member) (trans _ _ _ (half atEntry started) (whole related))

/-- The same since the origin, at any depth. -/
theorem Nested.since {D : W → W → Prop} (trans : ∀ u v w, D u v → D v w → D u w)
    (whole : ∀ {u v}, S u v → D u v)
    (half : ∀ {f w w₁ k}, J w → guard f w → C.start f w = .calling w₁ k → D w w₁)
    {origin w : W} {frames : List (Frame W K)} (nested : Nested C guard J S origin w frames) :
    D origin w := by
  induction nested with
  | nil related => exact whole related
  | cons operation allowed atEntry _ started related _ ih =>
    exact trans _ _ _ ih (trans _ _ _ (half atEntry allowed started) (whole related))

end Rely

/-! ### Runs that keep what is open -/

section Continues

variable (C : Component W F K R E T)

/-- The actions that close the innermost frame. -/
def Action.Closes : Action F R T → Prop
  | .ret _ => True
  | .abort => True
  | _ => False

/-- A reply on which the innermost operation completes, on the world its callee left. -/
def Component.Commits (config : Config W K) (reply : R) : Prop :=
  C.succeeded reply = true ∧ ∃ frame rest finished, config.frames = frame :: rest ∧
    C.resume frame.pending reply config.world = .ok finished

/-- **Continuations.** `depth` operations that were open at the origin still are. Anything may happen
above them; they themselves may only complete. -/
inductive Continues (guard : F → W → Prop) (origin : Config W K) : ℕ → Config W K → Prop
  | refl : Continues guard origin origin.frames.length origin
  | above {depth : ℕ} {config : Config W K} (action : Action F R T) :
      Continues guard origin depth config → Component.Allowed guard config action →
      (action.Closes → depth < config.frames.length) →
      Continues guard origin depth (C.step config action)
  | commit {depth : ℕ} {config : Config W K} (reply : R) :
      Continues guard origin (depth + 1) config → config.frames.length = depth + 1 →
      C.Commits config reply → Continues guard origin depth (C.step config (.ret reply))

variable {C} {guard : F → W → Prop} {J Q : W → Prop} {S : W → W → Prop}

/-- Every continuation is a run. -/
theorem Continues.reachable {origin config : Config W K} {depth : ℕ}
    (continues : Continues C guard origin depth config) : C.Reachable guard origin config := by
  induction continues with
  | refl => exact .refl
  | above action _ allowed _ ih => exact .step action ih allowed
  | commit reply _ _ _ ih => exact .step (.ret reply) ih trivial

/-- What `Continues.stable` asks of one operation: no half of it destroys `Q`. -/
structure Stable (C : Component W F K R E T) (guard : F → W → Prop) (J : W → Prop)
    (S : W → W → Prop) (Q : W → Prop) : Prop where
  done : ∀ {f w w'}, J w → Q w → guard f w → C.start f w = .done w' → Q w'
  calling : ∀ {f w w₁ k}, J w → Q w → guard f w → C.start f w = .calling w₁ k → Q w₁
  resume : ∀ {f w w₁ k r w₂ w₃}, J w → C.start f w = .calling w₁ k → J w₁ → J w₂ → S w₁ w₂ →
    Q w₂ → C.resume k r w₂ = .ok w₃ → Q w₃
  idle : ∀ {t w}, J w → Q w → Q (C.idle t w)

/-- The frames opened since the origin, above those that were open there. -/
def FramesSince (Q : W → Prop) (depth : ℕ) (frames : List (Frame W K)) : Prop :=
  ∃ new base, frames = new ++ base ∧ base.length = depth ∧
    ∀ frame ∈ new, Q frame.entry ∧ Q frame.callWorld

theorem Stable.start (stable : Stable C guard J S Q) {world : W} {frames : List (Frame W K)}
    {depth : ℕ} (holds : J world) (kept : Q world) (since : FramesSince Q depth frames)
    (operation : F) (allowed : guard operation world) :
    Q (C.step ⟨world, frames⟩ (.call operation)).world ∧
      FramesSince Q depth (C.step ⟨world, frames⟩ (.call operation)).frames := by
  simp only [Component.step]
  cases started : C.start operation world with
  | reverted error => exact ⟨kept, since⟩
  | done world' => exact ⟨stable.done holds kept allowed started, since⟩
  | calling world' pending =>
    have kept' := stable.calling holds kept allowed started
    obtain ⟨new, base, rfl, length, each⟩ := since
    refine ⟨kept', ⟨world, world', pending⟩ :: new, base, rfl, length, fun frame member => ?_⟩
    rcases List.mem_cons.mp member with rfl | member
    · exact ⟨kept, kept'⟩
    · exact each frame member

theorem Stable.finish (stable : Stable C guard J S Q) (known : AbsoluteRely C guard J S)
    {origin world : W} {frame : Frame W K} {rest : List (Frame W K)} (holds : J world)
    (nested : Nested C guard J S origin world (frame :: rest)) (reply : R) (kept : Q world)
    (entry : Q frame.entry) (call : Q frame.callWorld) : Q (C.finish frame reply world) := by
  obtain ⟨atEntry, atCall, related, operation, _, started⟩ := nested.top
  simp only [Component.finish, Component.resumeWorld]
  cases C.succeeded reply with
  | true =>
    simp only [if_true]
    cases resumed : C.resume frame.pending reply world with
    | error _ => exact entry
    | ok finished => exact stable.resume atEntry started atCall holds related kept resumed
  | false =>
    simp only [Bool.false_eq_true, if_false]
    cases resumed : C.resume frame.pending reply frame.callWorld with
    | error _ => exact entry
    | ok finished =>
      exact stable.resume atEntry started atCall atCall (known.refl _) call resumed

/-- **Stability.** What no half of an operation destroys still holds in every continuation. -/
theorem Continues.stable (stable : Stable C guard J S Q) (known : AbsoluteRely C guard J S)
    {start : W} {origin config : Config W K} {depth : ℕ} (holds : J origin.world)
    (nested : Nested C guard J S start origin.world origin.frames) (kept : Q origin.world)
    (continues : Continues C guard origin depth config) : Q config.world := by
  suffices invariant : J config.world ∧ Nested C guard J S start config.world config.frames ∧
      Q config.world ∧ FramesSince Q depth config.frames from invariant.2.2.1
  induction continues with
  | refl => exact ⟨holds, nested, kept, [], origin.frames, rfl, rfl, fun _ member => by cases member⟩
  | @above depth config action _ allowed closes ih =>
    obtain ⟨world, frames⟩ := config
    obtain ⟨holds', nested', kept', since⟩ := ih
    obtain ⟨holds'', nested''⟩ := known.sound_step holds' nested' action allowed
    refine ⟨holds'', nested'', ?_⟩
    cases action with
    | call operation => exact stable.start holds' kept' since operation allowed
    | idle passage =>
      cases frames with
      | nil => exact ⟨stable.idle holds' kept', since⟩
      | cons frame rest => exact ⟨kept', since⟩
    | ret reply =>
      obtain ⟨new, base, rfl, length, each⟩ := since
      cases new with
      | nil => exact absurd (closes trivial) (by simp [length])
      | cons frame new =>
        obtain ⟨entry, call⟩ := each frame List.mem_cons_self
        refine ⟨stable.finish known holds' nested' reply kept' entry call, new, base, rfl, length,
          fun other member => each other (List.mem_cons_of_mem _ member)⟩
    | abort =>
      obtain ⟨new, base, rfl, length, each⟩ := since
      cases new with
      | nil => exact absurd (closes trivial) (by simp [length])
      | cons frame new =>
        exact ⟨(each frame List.mem_cons_self).1, new, base, rfl, length,
          fun other member => each other (List.mem_cons_of_mem _ member)⟩
  | @commit depth config reply _ full commits ih =>
    obtain ⟨world, frames⟩ := config
    obtain ⟨holds', nested', kept', since⟩ := ih
    obtain ⟨holds'', nested''⟩ := known.sound_step holds' nested' (.ret reply) trivial
    refine ⟨holds'', nested'', ?_⟩
    obtain ⟨success, frame, rest, finished, same, resumed⟩ := commits
    simp only at same resumed
    subst same
    obtain ⟨atEntry, atCall, related, operation, _, started⟩ := nested'.top
    simp only [Component.step, Component.finish, Component.resumeWorld, success, if_true, resumed]
    refine ⟨stable.resume atEntry started atCall holds' related kept' resumed, [], rest, rfl, ?_,
      fun _ member => by cases member⟩
    simpa using full

end Continues

end CallStack
