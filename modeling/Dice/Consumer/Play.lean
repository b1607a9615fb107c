/-
**Every run of the oracle and the game together.**

* `Grounded`, `Evolution` — what is known of each contract, carried over from its own runs.
* `linked_rely` — the obligations of the invariant between them.
* `Reachable` — the runs: the game is deployed on an oracle that has been in use.
* `joint_refines` — they are runs of each contract.
* `games_linked` — what a game can be, in every run.
* `game_settles` — an open game whose request is active is settled by the next reveal of it.
* `games_final` — a game without an active request never changes again.
-/

import Dice.Consumer.Games

set_option linter.unusedSectionVars false

namespace Dice.Joint

variable {Bytes32 : Type}

open CoinFlip (House Side Game Setting)

variable (K : Keccak Bytes32) (odd : Bytes32 → Bool) (a : Addresses) [DecidableEq Bytes32]

/-- What is known of each contract by itself. -/
def Grounded (d : Setting) (b : Both Bytes32) : Prop :=
  (Sound K b.entropy ∧ CoinFlip.Solvent odd b.house) ∧ CoinFlip.Wired d b.house

/-- And of what a whole call does to each. -/
def Evolution (b b' : Both Bytes32) : Prop :=
  (Evolves K b.entropy b'.entropy ∧ CoinFlip.KeepsSlack b.house b'.house) ∧ True

variable {K} {odd} {a} {d : Setting} {b b' b₁ b₂ b₃ : Both Bytes32}

theorem grounded_rely :
    CallStack.AbsoluteRely (joint K odd a) (Outside K a) (Grounded K odd d) (Evolution K) := by
  have entropy : CallStack.AbsoluteRely (joint K odd a) (Outside K a) (fun b => Sound K b.entropy)
      fun b b' => Evolves K b.entropy b'.entropy := entropy_simulation.rely requests_rely
  have house : CallStack.AbsoluteRely (joint K odd a) (Outside K a)
      (fun b => CoinFlip.Solvent odd b.house) fun b b' => CoinFlip.KeepsSlack b.house b'.house :=
    house_simulation.rely (CoinFlip.solvent_rely CoinFlip.anyCall)
  have wired : CallStack.AbsoluteRely (joint K odd a) (Outside K a)
      (fun b => CoinFlip.Wired d b.house) fun _ _ => True :=
    house_simulation.rely (CoinFlip.wired_rely CoinFlip.anyCall d)
  exact (entropy.extend house.relative).extend wired.relative

/-! ### One half at a time -/

/-- The calls of the game contract that are neither flips nor callbacks leave the games alone. -/
theorem sameGames_of_start {m : CoinFlip.Message Bytes32} {h h' : House Bytes32}
    (other : m.msg.sender ≠ h.storage.dice) (started : CoinFlip.start odd m h = .done h') :
    SameGames h h' := by
  cases CoinFlip.start_done started with
  | won _ sender _ _ _ => exact absurd sender other
  | lost _ sender _ _ _ => exact absurd sender other
  | owned _ _ _ => exact ⟨rfl, rfl, rfl⟩
  | received _ => exact ⟨rfl, rfl, rfl⟩
  | forced _ => exact ⟨rfl, rfl, rfl⟩

theorem sameGames_of_calling {m : CoinFlip.Message Bytes32} {h h' : House Bytes32}
    {pending : CoinFlip.Pending} (started : CoinFlip.start odd m h = .calling h' pending) :
    SameGames h h' := by
  cases CoinFlip.start_calling started <;> exact ⟨rfl, rfl, rfl⟩

/-- A payment, when it is through. -/
theorem sameGames_of_resume {m : CoinFlip.Message Bytes32} {h h₁ h₂ h₃ : House Bytes32}
    {pending : CoinFlip.Pending} {returned : CoinFlip.Returned}
    (noFlip : ∀ guess userRandom wager quoted, m.call ≠ .flip guess userRandom wager quoted)
    (started : CoinFlip.start odd m h = .calling h₁ pending)
    (resumed : CoinFlip.resume K pending returned h₂ = .ok h₃) : SameGames h₂ h₃ := by
  cases CoinFlip.resume_ok resumed with
  | flip _ =>
    cases CoinFlip.start_calling started with
    | flip call _ _ _ _ => exact absurd call (noFlip _ _ _ _)
  | withdrawal _ => exact ⟨rfl, rfl, rfl⟩
  | bankroll _ => exact ⟨rfl, rfl, rfl⟩
  | foreign => exact ⟨rfl, rfl, rfl⟩

/-- A call that the oracle makes to somebody else is about the request of somebody else. -/
theorem target_elsewhere {m : Message Bytes32} {w w₁ : World Bytes32} {pending : Pending Bytes32}
    (calls : Calls K m w w₁ pending) (outside : m.msg.sender ≠ a.coinFlip)
    (elsewhere : ∀ recipient n provider randomNumber,
      callee w₁ pending = some (recipient, n, provider, randomNumber) → recipient ≠ a.coinFlip)
    {key : RequestKey} (target : pending.target = some key) :
    ∃ req, w.state.lookup K key = some req ∧ req.requester ≠ a.coinFlip := by
  cases calls with
  | @limited provider n startingGas endingGas len u v req call checks status limit =>
    cases target
    obtain ⟨_, _, _, read⟩ := (Calls.limited call checks status limit).limited_found checks.found
    refine ⟨req, checks.found, elsewhere _ n provider (revealedNumber K w req u v) ?_⟩
    simp only [callee, read]
  | unlimited _ checks _ _ =>
    cases target
    exact ⟨_, checks.found, elsewhere _ _ _ _ rfl⟩
  | refund _ checks _ _ _ =>
    cases target
    exact ⟨_, checks.found, checks.requester ▸ outside⟩
  | withdrawal _ _ _ _ => cases target
  | foreign _ => cases target

/-- A request of somebody else stays that of somebody else. -/
theorem others_of_keeps {w w' : World Bytes32} (sound : Sound K w) (keeps : Keeps K w w')
    {key : RequestKey} {req : Request Bytes32} (found : w.state.lookup K key = some req)
    (other : req.requester ≠ a.coinFlip) :
    ∀ req', w'.state.lookup K key = some req' → req'.requester ≠ a.coinFlip := by
  intro req' after
  obtain ⟨req₀, before, same⟩ := keeps.request (sound.used found) after
  obtain rfl := Option.some.inj (found.symm.trans before)
  rwa [same.requester]

/-- **Calls that finish at once.** -/
theorem linked_done (dice : d.dice = a.entropy) (grounded : Grounded K odd d b)
    (linked : Linked K a b) {operation : Operation Bytes32} (outside : Outside K a operation b)
    (started : startBoth K odd a operation b = .done b') : Linked K a b' ∧ Fixes K b b' := by
  obtain ⟨⟨sound, _⟩, wired⟩ := grounded
  cases operation with
  | entropy m callback =>
    rcases startEntropy_done started with ⟨done, same⟩ |
      ⟨entropy, pending, n, provider, randomNumber, result, calling, called, answered, resumed⟩
    · have finishes := start_done done
      have keeps := (finishes.evolves sound).2.toKeeps
      obtain ⟨target, spares, targets⟩ := finishes.spares sound
      refine ⟨?_, .of_entropy keeps same⟩
      have step : b' = { b with entropy := b'.entropy } := by rw [← same]
      rw [step]
      refine linked.spared keeps spares fun key hit => ?_
      cases targets key hit with
      | made none found sender =>
        refine ⟨fun req before => ?_, fun req after => ?_⟩
        · rw [none] at before
          cases before
        · obtain rfl := Option.some.inj (found.symm.trans after)
          exact sender ▸ outside.1
      | refunded found sender none =>
        refine ⟨fun req before => ?_, fun req after => ?_⟩
        · obtain rfl := Option.some.inj (found.symm.trans before)
          exact sender ▸ outside.1
        · rw [none] at after
          cases after
      | noCallback call found none =>
        refine ⟨fun req before => outside.2 _ _ _ _ _ _ req call before, fun req after => ?_⟩
        rw [none] at after
        cases after
    · have calls := start_calling calling
      exact linked.answered sound calls called answered (resume_ok calls.proper resumed)
  | house m =>
    rcases startHouse_done started with ⟨_, _, _, _, _, ⟨flipped⟩⟩ | ⟨done, same⟩
    · exact ⟨linked.flipped sound flipped, .flipped sound flipped⟩
    · have other : m.msg.sender ≠ b.house.storage.dice := by
        rw [wired.dice, dice]
        exact outside.1
      have games := sameGames_of_start other done
      have step : b' = { b with house := b'.house } := by rw [← same]
      refine ⟨?_, .of_house same games⟩
      rw [step]
      exact linked.sameGames games

/-- **First halves**, and what they promise about the rest. -/
theorem linked_calling (grounded : Grounded K odd d b) (linked : Linked K a b)
    {operation : Operation Bytes32} {waiting : Waiting Bytes32}
    (outside : Outside K a operation b)
    (started : startBoth K odd a operation b = .calling b₁ waiting) :
    Linked K a b₁ ∧ Fixes K b b₁ := by
  have sound := grounded.1.1
  cases operation with
  | entropy m callback =>
    obtain ⟨pending, calling, rfl, same, elsewhere⟩ := startEntropy_calling started
    have calls := start_calling calling
    have keeps := (calls.advances sound).2.toKeeps
    have step : b₁ = { b with entropy := b₁.entropy } := by rw [← same]
    refine ⟨?_, .of_entropy keeps same⟩
    rw [step]
    refine linked.spared keeps (calls.spares sound) fun key hit => ?_
    obtain ⟨req, found, other⟩ := target_elsewhere calls outside.1 elsewhere hit
    refine ⟨fun req' before => ?_, others_of_keeps sound keeps found other⟩
    obtain rfl := Option.some.inj (found.symm.trans before)
    exact other
  | house m =>
    obtain ⟨pending, calling, rfl, same⟩ := startHouse_calling started
    have games := sameGames_of_calling calling
    have step : b₁ = { b with house := b₁.house } := by rw [← same]
    refine ⟨?_, .of_house same games⟩
    rw [step]
    exact linked.sameGames games

/-- A call of the game contract that stays open is no flip. -/
theorem startHouse_noFlip {m : CoinFlip.Message Bytes32} {waiting : Waiting Bytes32}
    (started : startHouse K odd a m b = .calling b₁ waiting) (guess : Side) (userRandom : Bytes32)
    (wager : ℕ) (quoted : Option ℕ) : m.call ≠ .flip guess userRandom wager quoted := by
  intro call
  unfold startHouse at started
  rw [call] at started
  exact startFlip_calling started

/-- **The rest of a call.** -/
theorem linked_resume (grounded : Grounded K odd d b) {operation : Operation Bytes32}
    {waiting : Waiting Bytes32} {result : CallResult} (outside : Outside K a operation b)
    (started : startBoth K odd a operation b = .calling b₁ waiting)
    (sound₂ : Sound K b₂.entropy) (linked₂ : Linked K a b₂) (between : Evolves K b₁.entropy b₂.entropy)
    (evolves : Evolves K b.entropy b₃.entropy)
    (resumed : resumeBoth K waiting result b₂ = .ok b₃) : Linked K a b₃ ∧ Fixes K b₂ b₃ := by
  have sound := grounded.1.1
  cases operation with
  | entropy m callback =>
    obtain ⟨pending, calling, rfl, _, elsewhere⟩ := startEntropy_calling started
    have calls := start_calling calling
    rcases resumeBoth_ok resumed with ⟨_, same, ok, house⟩ | ⟨_, impossible, _⟩
    · cases same
      have resumes := resume_ok calls.proper ok
      have keeps := (resumes.keeps sound₂).2
      have step : b₃ = { b₂ with entropy := b₃.entropy } := by rw [← house]
      refine ⟨?_, .of_entropy keeps house⟩
      rw [step]
      refine linked₂.spared keeps (resumes.spares sound₂) fun key hit => ?_
      obtain ⟨req, found, other⟩ := target_elsewhere calls outside.1 elsewhere hit
      have early := (calls.advances sound).2.toKeeps.trans between.toKeeps
      exact ⟨others_of_keeps sound early found other,
        others_of_keeps sound evolves.toKeeps found other⟩
    · cases impossible
  | house m =>
    obtain ⟨pending, calling, rfl, _⟩ := startHouse_calling started
    rcases resumeBoth_ok resumed with ⟨_, impossible, _⟩ | ⟨_, same, _, ok, entropy⟩
    · cases impossible
    · cases same
      have games := sameGames_of_resume (startHouse_noFlip started) calling ok
      have step : b₃ = { b₂ with house := b₃.house } := by rw [← entropy]
      refine ⟨?_, .of_house entropy games⟩
      rw [step]
      exact linked₂.sameGames games

/-- **The obligations of the invariant.** -/
theorem linked_rely (dice : d.dice = a.entropy) :
    CallStack.Rely (joint K odd a) (Outside K a) (Grounded K odd d) (Evolution K) (Linked K a)
      (Fixes K) where
  refl b := .of_entropy (Evolves.refl b.entropy).toKeeps rfl
  trans _ _ _ := .trans
  done grounded linked outside started _ _ := linked_done dice grounded linked outside started
  calling grounded linked outside started _ :=
    (linked_calling grounded linked outside started).1
  succeed := by
    intro operation b b₁ waiting result b₂ b₃ grounded linked outside started _ linked₁ grounded₂
      linked₂ between related _ resumed _ evolves
    have first := (linked_calling grounded linked outside started).2
    have rest := linked_resume grounded outside started grounded₂.1.1 linked₂ between.1.1
      evolves.1.1 resumed
    exact ⟨rest.1, first.trans (related.trans rest.2)⟩
  fail := by
    intro operation b b₁ waiting result b₃ grounded linked outside started grounded₁ linked₁ _
      resumed _ evolves
    have first := (linked_calling grounded linked outside started).2
    have rest := linked_resume grounded outside started grounded₁.1.1 linked₁ (.refl _)
      evolves.1.1 resumed
    exact ⟨rest.1, first.trans rest.2⟩
  idle := by
    intro mined b _ linked _ evolves
    have keeps : Keeps K b.entropy (mine mined b.entropy) := evolves.1.1.toKeeps
    refine ⟨linked.spared keeps (.of_same none rfl) fun _ same => ?_, .of_entropy keeps rfl⟩
    cases same

/-! ### Runs -/

variable (K) (odd) (a) in
/-- **The configurations of all runs.** The game is deployed between two transactions, on an oracle
that has been in use, and from then on anything allowed is called. -/
def Reachable (c : Config Bytes32) : Prop :=
  ∃ (before : Dice.Config Bytes32) (d : Setting) (house : House Bytes32),
    Dice.Reachable K (fun m _ => m.msg.sender ≠ a.coinFlip) before ∧ before.frames = [] ∧
      d.dice = a.entropy ∧ CoinFlip.constructor K d = .ok house ∧
      (joint K odd a).Reachable (Outside K a) ⟨⟨before.world, house⟩, []⟩ c

variable (K) (a) in
/-- No request belongs to an address from which nothing was called. -/
def Unasked (w : World Bytes32) : Prop :=
  ∀ {key req}, w.state.lookup K key = some req → req.requester ≠ a.coinFlip

theorem Unasked.narrows {w w' : World Bytes32} (unasked : Unasked K a w)
    (narrows : Narrows K w w') : Unasked K a w' := by
  intro key req found
  obtain ⟨req₀, before, same⟩ := narrows found
  rw [same.requester]
  exact unasked before

theorem unasked_rely :
    CallStack.Rely (dice K) (fun m _ => m.msg.sender ≠ a.coinFlip) (Sound K) (Evolves K)
      (Unasked K a) fun _ _ => True := by
  refine rely_of_invariant (fun sound unasked outside finishes => ?_)
    (fun sound unasked _ calls => unasked.narrows (calls.narrows sound))
    (fun sound unasked resumes => unasked.narrows (resumes.narrows sound)) fun unasked => unasked
  rcases finishes.narrows sound with narrows | ⟨provider, u, _, gasLimit10k, checks, rfl⟩
  · exact unasked.narrows narrows
  · intro key req found
    rcases found_requested sound checks.registered found with ⟨_, rfl⟩ | ⟨_, before⟩
    · exact outside
    · exact unasked before

/-- The invariant at the deployment of the game. -/
theorem linked_initial {w : World Bytes32} {house : House Bytes32} (unasked : Unasked K a w)
    (deployed : CoinFlip.constructor K d = .ok house) : Linked K a ⟨w, house⟩ := by
  simp only [CoinFlip.constructor, bind_ok, CoinFlip.revertIf_ok, exists_const, pure_ok] at deployed
  obtain ⟨_, rfl⟩ := deployed
  exact ⟨fun found mine => absurd mine (unasked found), fun player => absurd rfl player,
    fun live => absurd rfl live.1, fun resolved => absurd rfl resolved, .zero fun _ => rfl⟩

variable {c c' : Config Bytes32}

/-- The obligations, with what is known of each contract. -/
theorem joint_rely (dice : d.dice = a.entropy) :
    CallStack.AbsoluteRely (joint K odd a) (Outside K a)
      (fun b => Grounded K odd d b ∧ Linked K a b) fun b b' => Evolution K b b' ∧ Fixes K b b' :=
  grounded_rely.extend (linked_rely dice)

/-- **What holds in every run.** -/
theorem Reachable.linked (reach : Reachable K odd a c) :
    ∃ d, d.dice = a.entropy ∧ Grounded K odd d c.world ∧ Linked K a c.world := by
  obtain ⟨before, d, house, used, _, dice, deployed, run⟩ := reach
  obtain ⟨⟨sound, unasked⟩, _⟩ := used.holds unasked_rely fun deployed key req found => by
    rw [constructor_lookup deployed] at found
    cases found
  have grounded : Grounded K odd d ⟨before.world, house⟩ :=
    ⟨⟨sound, CoinFlip.constructor_solvent deployed⟩, (CoinFlip.constructor_wired deployed).2.2⟩
  exact ⟨d, dice, ((joint_rely dice).sound ⟨grounded, linked_initial unasked deployed⟩ rfl run).1⟩

/-- **Every run of the two contracts is a run of each**: of the oracle from its deployment, and of the
game from its own, each with the frames of the joint run. -/
theorem joint_refines (reach : Reachable K odd a c) :
    Dice.Reachable K anyCall (CallStack.Simulation.image Both.entropy Waiting.toEntropy c) ∧
      ∃ d house, CoinFlip.constructor K d = .ok house ∧
        (CoinFlip.coinFlip K odd).Reachable CoinFlip.anyCall ⟨house, []⟩
          (CallStack.Simulation.image Both.house Waiting.toHouse c) := by
  obtain ⟨before, d, house, ⟨e, w, created, used⟩, idle, _, deployed, run⟩ := reach
  have free : (dice K).Reachable anyCall ⟨w, []⟩ before :=
    CallStack.Component.Reachable.mono _ (fun _ _ _ => trivial) used
  have entropy := entropy_simulation.reachable run
  have same : CallStack.Simulation.image Both.entropy Waiting.toEntropy
      (⟨⟨before.world, house⟩, []⟩ : Config Bytes32) = before := by
    cases before
    cases idle
    rfl
  rw [same] at entropy
  exact ⟨⟨e, w, created, CallStack.Component.Reachable.trans _ free entropy⟩, d, house, deployed,
    house_simulation.reachable run⟩

/-! ### A small table -/

namespace Casino

open Dice.Casino (setting house sizeOdd deployed dice_ne_zero)

theorem coinFlip_ne_zero : (101 : Address) ≠ 0 := by decide

def addresses : Addresses := ⟨100, 101, dice_ne_zero, coinFlip_ne_zero⟩

/-- The user bets 10 on heads. -/
def flip : Action Sym :=
  .call (.house ⟨Sample.msg Sample.user 20 Sample.user_ne_zero,
    .flip .heads (Sample.contribution 1) 10 none⟩)

/-- The provider reveals the first request, and the callback has enough gas or not. -/
def reveal (enoughGas : Bool) : Action Sym :=
  .call (.entropy ⟨Sample.msg Sample.provider 0 Sample.provider_ne_zero,
    .revealWithCallback Sample.provider 1 (Sample.contribution 1) (Sample.value 1) 1000000 0 1⟩
      ⟨enoughGas, [], 900000⟩)

def after (actions : List (Action Sym)) : Config Sym :=
  (joint symbolic sizeOdd addresses).run ⟨⟨Sample.world, house⟩, []⟩ actions

theorem flip_allowed (c : Config Sym) :
    CallStack.Component.Allowed (Outside symbolic addresses) c flip :=
  ⟨by decide, nofun⟩

theorem reveal_allowed (c : Config Sym) (enoughGas : Bool) :
    CallStack.Component.Allowed (Outside symbolic addresses) c (reveal enoughGas) :=
  ⟨by decide, by
    intro provider n u v startingGas endingGas req call _
    cases call⟩

theorem reachable {actions : List (Action Sym)}
    (allowed : (joint symbolic sizeOdd addresses).RunAllowed (Outside symbolic addresses)
      ⟨⟨Sample.world, house⟩, []⟩ actions) :
    Reachable symbolic sizeOdd addresses (after actions) :=
  ⟨⟨Sample.world, []⟩, setting, house, ⟨Sample.deployment, Sample.world, Sample.deployed, .refl⟩,
    rfl, rfl, deployed, .of_run _ allowed⟩

theorem flip_reachable : Reachable symbolic sizeOdd addresses (after [flip]) :=
  reachable ⟨flip_allowed _, trivial⟩

end Casino

theorem joint_refines_flipped : Dice.Reachable symbolic anyCall
    (CallStack.Simulation.image Both.entropy Waiting.toEntropy (Casino.after [Casino.flip])) :=
  (joint_refines Casino.flip_reachable).1

/-! ### What a game can be -/

variable (K) (odd) (a) in
/-- The four states of a game, with those of its request. -/
inductive Stands (b : Both Bytes32) (n : ℕ) : Prop
  /-- There is no game, nor a request of the game contract. -/
  | unused : (b.game n).player = 0 → (b.game n).state = .pending →
      (∀ req, b.entropy.state.lookup K (b.key n) = some req → req.requester ≠ a.coinFlip) →
      Stands b n
  /-- The request is active, and no callback of it is under way. -/
  | waiting {req : Request Bytes32} : (b.game n).Open →
      b.entropy.state.lookup K (b.key n) = some req → req.requester = a.coinFlip →
      req.callbackStatus ≠ .inProgress → Stands b n
  /-- The request was cleared by a callback that failed; the number was published nevertheless. -/
  | lost {randomNumber : Bytes32} : (b.game n).Open → b.entropy.Gone K (b.key n) →
      Published a.coinFlip (b.key n) randomNumber true b.entropy → Stands b n
  /-- The game was decided by the number that was published for it. -/
  | settled : (b.game n).player ≠ 0 → b.entropy.Gone K (b.key n) →
      Published a.coinFlip (b.key n) (b.game n).randomNumber false b.entropy →
      (b.game n).state = (if (b.game n).guess = CoinFlip.resultOf odd (b.game n).randomNumber then
        .won else .lost) → Stands b n

theorem Linked.stands (linked : Linked K a b) (solvent : CoinFlip.Solvent odd b.house) (n : ℕ) :
    Stands K odd a b n := by
  have unasked : ¬ (b.game n).Open → ∀ req, b.entropy.state.lookup K (b.key n) = some req →
      req.requester ≠ a.coinFlip := fun dead req found mine => dead (linked.asked found mine).2.1
  by_cases player : (b.game n).player = 0
  · refine .unused player ?_ (unasked fun live => live.1 player)
    by_contra resolved
    exact (linked.settled resolved).1 player
  obtain ⟨used, mine⟩ := linked.numbered player
  by_cases live : (b.game n).Open
  · cases found : b.entropy.state.lookup K (b.key n) with
    | some req =>
      exact .waiting live found (mine req found) (linked.asked found (mine req found)).2.2
    | none =>
      rcases linked.waits live with ⟨req, active⟩ | ⟨randomNumber, published⟩
      · rw [found] at active
        cases active
      · exact .lost live ⟨used, found⟩ published
  · have resolved : (b.game n).state ≠ .pending := fun still => live ⟨player, still⟩
    have gone : b.entropy.Gone K (b.key n) := by
      refine ⟨used, ?_⟩
      cases found : b.entropy.state.lookup K (b.key n) with
      | none => rfl
      | some req => exact absurd (mine req found) (unasked live req found)
    refine .settled player gone (linked.settled resolved).2 ?_
    have verified : (b.game n).Verified odd := solvent.verified n
    unfold Game.Verified at verified
    cases state : (b.game n).state with
    | pending => exact absurd state resolved
    | won =>
      rw [state] at verified
      rw [if_pos verified]
    | lost =>
      rw [state] at verified
      rw [if_neg verified]

/-- **Every game and its request**, in every run of the two contracts. A game does not exist, or
waits for its request, or its request was lost to a failed callback, or the number that the oracle
published for it decided it. The locked wagers are exactly those of the open games, and the balance
covers them twice over. And a flip opens a game where there was none. -/
theorem games_linked (reach : Reachable K odd a c) :
    (∀ n, Stands K odd a c.world n) ∧
      Pool.Totals c.world.house.storage.lockedWagers c.world.house.stakes ∧
      2 * c.world.house.storage.lockedWagers + c.world.house.storage.totalPending ≤
        c.world.house.balance ∧
      ∀ msg guess userRandom wager quoted b',
        startBoth K odd a (.house ⟨msg, .flip guess userRandom wager quoted⟩) c.world = .done b' →
        ∃ n req, (c.world.game n).player = 0 ∧ (∀ k ≠ n, b'.game k = c.world.game k) ∧
          b'.game n = CoinFlip.newGame K msg.sender guess wager ∧
          b'.entropy.state.lookup K (c.world.key n) = some req ∧ req.requester = a.coinFlip := by
  obtain ⟨d, _, grounded, linked⟩ := reach.linked
  refine ⟨linked.stands grounded.1.2, linked.locked, grounded.1.2.covered, ?_⟩
  intro msg guess userRandom wager quoted b' started
  obtain ⟨flipped⟩ := startFlip_done started
  obtain ⟨⟨gasLimit10k, checks, entropy⟩, house⟩ := flipped.effect
  have games : b'.house.storage.games = Function.update c.world.house.storage.games c.world.next
      (CoinFlip.newGame K msg.sender guess wager) := by
    rw [house]
    rfl
  refine ⟨c.world.next, madeRequest K c.world.entropy (requestMsg a (quotedFee c.world))
    c.world.house.storage.provider userRandom gasLimit10k, linked.fresh, fun k other => ?_, ?_, ?_,
    rfl⟩
  · rw [Both.game, games, Function.update_of_ne other, Both.game]
  · rw [Both.game, games, Function.update_self]
  · rw [entropy, lookup_requested grounded.1.1 _ _ _ checks.registered]
    exact Function.update_self _ _ _

theorem games_linked_flipped :
    Stands symbolic Casino.sizeOdd Casino.addresses (Casino.after [Casino.flip]).world 1 :=
  (games_linked Casino.flip_reachable).1 1

/-! ### Settlement -/

/-- A reveal with the right contributions calls the requester, if it has code. -/
theorem start_reveal {w : World Bytes32} {provider : Address} {n : ℕ} {u v : Bytes32}
    {req : Request Bytes32} (checks : RevealChecks K w provider n u v req)
    (status : req.callbackStatus = .notStarted ∨ req.callbackStatus = .failed) {msg : Msg}
    (free : msg.value = 0) (startingGas endingGas : ℕ) {len : ℕ} (code : len ≠ 0) :
    ∃ w₁ pending,
      start K ⟨msg, .revealWithCallback provider n u v startingGas endingGas len⟩ w =
        .calling w₁ pending ∧ pending.Answers provider n u v startingGas ∧
      callee w₁ pending = some (req.requester, n, provider, revealedNumber K w req u v) := by
  obtain ⟨⟨w', ref, random⟩, passed⟩ := revealWithCallbackChecks_of checks status
  have unfolded : start K ⟨msg, .revealWithCallback provider n u v startingGas endingGas len⟩ w =
      revealWithCallback K w provider n u v startingGas endingGas len := by
    unfold start
    rw [if_neg fun refused => refused.1 free]
  obtain ⟨req', checks', _, read, rfl, rfl, rfl⟩ := revealWithCallbackChecks_ok passed
  obtain rfl := checks.req_eq checks'.found
  have read₁ : (w.accepted provider n v).state.read (findRequest K w.state provider n) = req := read
  rw [unfolded]
  by_cases limited : req.gasLimit10k ≠ 0 ∧ req.callbackStatus = .notStarted
  · obtain ⟨w₁, started⟩ : ∃ w₁, revealWithCallback K w provider n u v startingGas endingGas len =
        .calling w₁ (.limited (findRequest K w.state provider n) provider n u v
          (revealedNumber K w req u v) startingGas) := by
      unfold revealWithCallback
      rw [passed]
      simp only [read₁]
      rw [if_pos limited]
      exact ⟨_, rfl⟩
    refine ⟨w₁, _, started, .limited, ?_⟩
    obtain ⟨_, _, _, found⟩ :=
      (start_calling (unfolded.trans started)).limited_found checks.found
    simp only [callee, found]
  · obtain ⟨w₁, started⟩ : ∃ w₁, revealWithCallback K w provider n u v startingGas endingGas len =
        .calling w₁ (.unlimited req.requester provider n u v (revealedNumber K w req u v)
          startingGas) := by
      unfold revealWithCallback
      rw [passed]
      simp only [read₁]
      rw [if_neg limited, if_pos code]
      exact ⟨_, rfl⟩
    exact ⟨w₁, _, started, .unlimited, rfl⟩

/-- After a callback that succeeded, only the gas count can make the reveal fail. -/
theorem delivered_ok (w₂ : World Bytes32) {pending : Pending Bytes32} {provider : Address}
    {n startingGas : ℕ} {u v : Bytes32} (answers : pending.Answers provider n u v startingGas)
    {result : CallResult} (success : result.success = true) (fits : GasFits startingGas result) :
    ∃ w₃, resume K pending result w₂ = .ok w₃ := by
  cases answers with
  | unlimited => exact unlimited_ok w₂ .unlimited id fits
  | limited =>
    unfold resume revealWithCallbackLimited
    simp only [success, if_true]
    exact ⟨_, bind_ok.mpr ⟨_, checkedSub_ok.mpr ⟨fits.1, rfl⟩, bind_ok.mpr ⟨_,
      toUint_ok.mpr ⟨fits.2, rfl⟩, rfl⟩⟩⟩

/-- **An active request settles its game**, with the next reveal that has the right contributions and
enough gas, whoever makes it and however often callbacks failed before: the callback cannot revert,
so the game is won or lost by the parity of the combined number, and the request is gone. -/
theorem game_settles (reach : Reachable K odd a c)
    (fits : c.world.house.balance < CoinFlip.uint256) {n : ℕ} {req : Request Bytes32}
    (active : c.world.entropy.state.lookup K (c.world.key n) = some req)
    (mine : req.requester = a.coinFlip) {u v : Bytes32}
    (opens : K.keccak256 [constructUserCommitment K u, (chainHash K)^[req.numHashes] v] =
      req.commitment)
    (msg : Msg) (free : msg.value = 0) (startingGas endingGas len : ℕ) (code : len ≠ 0)
    (callback : CallResult) (enough : callback.success = true)
    (gas : GasFits startingGas callback) :
    ∃ entropy, startBoth K odd a (.entropy ⟨msg, .revealWithCallback
          c.world.house.storage.provider n u v startingGas endingGas len⟩ callback) c.world =
        .done ⟨entropy, if (c.world.game n).guess =
            CoinFlip.resultOf odd (combineRandomValues K u v (K.word 0)) then
          c.world.house.won odd n (combineRandomValues K u v (K.word 0))
          else c.world.house.lost odd n (combineRandomValues K u v (K.word 0))⟩ ∧
      entropy.Gone K (c.world.key n) ∧
      Published a.coinFlip (c.world.key n) (combineRandomValues K u v (K.word 0)) false entropy := by
  obtain ⟨d, dice, ⟨⟨sound, solvent⟩, wired⟩, linked⟩ := reach.linked
  obtain ⟨_, live, idle⟩ := linked.asked active mine
  have plain := sound.noBlockhash active
  have checks : RevealChecks K c.world.entropy c.world.house.storage.provider n u v req :=
    ⟨active, opens, fun uses => absurd uses (by rw [plain]; exact nofun)⟩
  have number : revealedNumber K c.world.entropy req u v = combineRandomValues K u v (K.word 0) := by
    rw [revealedNumber, plain]
    rfl
  have status : req.callbackStatus = .notStarted ∨ req.callbackStatus = .failed := by
    have needed := sound.withCallback active
    cases same : req.callbackStatus with
    | notNecessary => exact absurd same needed
    | inProgress => exact absurd same idle
    | notStarted => exact .inl rfl
    | failed => exact .inr rfl
  obtain ⟨w₁, pending, started, answers, called⟩ :=
    start_reveal checks status free startingGas endingGas code
  have calls := start_calling started
  rw [mine, number] at called
  obtain ⟨entropy, resumed⟩ : ∃ entropy, resume K pending callback w₁ = .ok entropy :=
    delivered_ok w₁ answers enough gas
  have resumes := resume_ok calls.proper resumed
  have known : c.world.house.storage.dice = a.entropy := wired.dice.trans dice
  have accepted : CoinFlip.entropyCallbackExternal odd c.world.house (callbackMsg a) n
      c.world.house.storage.provider (combineRandomValues K u v (K.word 0)) = .ok _ :=
    CoinFlip.entropyCallbackExternal_of_open solvent fits (known ▸ a.entropy_ne_zero) known.symm live
  have answered : answer odd a c.world.house n c.world.house.storage.provider
      (combineRandomValues K u v (K.word 0)) callback.success = (true,
        if (c.world.game n).guess =
            CoinFlip.resultOf odd (combineRandomValues K u v (K.word 0)) then
          c.world.house.won odd n (combineRandomValues K u v (K.word 0))
        else c.world.house.lost odd n (combineRandomValues K u v (K.word 0))) := by
    rw [answer, enough, if_pos rfl, accepted]
    rfl
  refine ⟨entropy, ?_, ?_⟩
  · show startEntropy K odd a _ callback c.world = _
    simp only [startEntropy, started, called, answered, if_true]
    have same : ({ callback with success := true } : CallResult) = callback := by rw [← enough]
    rw [same, resumed]
  · rcases answered_resumes sound calls called resumes with ⟨_, none, published⟩ | ⟨failure, _⟩
    · have keeps := (resumes.keeps (calls.advances sound).1).2
      have used := (sound.used active).mono (calls.advances sound).2.counter
      exact ⟨⟨used.mono keeps.counter, none⟩, published⟩
    · rw [enough] at failure
      cases failure

theorem game_settles_flipped :
    ∃ entropy, startBoth symbolic Casino.sizeOdd Casino.addresses (.entropy
        ⟨Sample.msg Sample.provider 0 Sample.provider_ne_zero, .revealWithCallback Sample.provider 1
          (Sample.contribution 1) (Sample.value 1) 1000000 0 1⟩ ⟨true, [], 900000⟩)
        (Casino.after [Casino.flip]).world =
      .done ⟨entropy, (Casino.after [Casino.flip]).world.house.won Casino.sizeOdd 1
        (combineRandomValues symbolic (Sample.contribution 1) (Sample.value 1) (.atom 0))⟩ := by
  obtain ⟨req, active, mine, opens⟩ : ∃ req : Request Sym,
      (Casino.after [Casino.flip]).world.entropy.state.lookup symbolic (Sample.provider, 1) =
        some req ∧ req.requester = 101 ∧ symbolic.keccak256
          [constructUserCommitment symbolic (Sample.contribution 1),
            (chainHash symbolic)^[req.numHashes] (Sample.value 1)] = req.commitment :=
    ⟨_, rfl, rfl, rfl⟩
  obtain ⟨entropy, settled, _⟩ := game_settles Casino.flip_reachable (by decide +kernel) active mine
    opens (Sample.msg Sample.provider 0 Sample.provider_ne_zero) rfl 1000000 0 1 (by decide)
    ⟨true, [], 900000⟩ rfl ⟨by decide, by decide⟩
  exact ⟨entropy, settled⟩

/-! ### Finality -/

/-- **A game without an active request never changes again.** From any point between two transactions
on, in every run and also within its transactions: a game that was decided keeps its player, wager,
number and outcome, and one whose request was lost stays open for ever. -/
theorem games_final (reach : Reachable K odd a c) (between : c.frames = [])
    (later : (joint K odd a).Reachable (Outside K a) c c') {n : ℕ}
    (gone : c.world.entropy.Gone K (c.world.key n)) :
    c'.world.game n = c.world.game n ∧ c'.world.key n = c.world.key n ∧
      c'.world.entropy.Gone K (c'.world.key n) := by
  obtain ⟨d, dice, grounded, linked⟩ := reach.linked
  have nested := ((joint_rely dice).sound ⟨grounded, linked⟩ between later).2
  have fixes : Fixes K c.world c'.world := by
    refine nested.since (D := Fixes K) (fun _ _ _ => .trans) And.right ?_
    intro operation b b₁ waiting holds outside started
    exact (linked_calling holds.1 holds.2 outside started).2
  refine ⟨fixes.games n gone, fixes.key n, ?_⟩
  rw [fixes.key]
  exact gone.mono fixes.keeps

/-- A game whose callback failed, for a request without a gas limit, while more games are played. -/
theorem games_final_lost :
    ((Casino.after [Casino.flip, Casino.reveal false, Casino.flip]).world.game 1).Open ∧
      (Casino.after [Casino.flip, Casino.reveal false, Casino.flip]).world.entropy.Gone symbolic
        (Sample.provider, 1) := by
  have reach : Reachable symbolic Casino.sizeOdd Casino.addresses
      (Casino.after [Casino.flip, Casino.reveal false]) :=
    Casino.reachable ⟨Casino.flip_allowed _, Casino.reveal_allowed _ _, trivial⟩
  have later : (joint symbolic Casino.sizeOdd Casino.addresses).Reachable
      (Outside symbolic Casino.addresses) (Casino.after [Casino.flip, Casino.reveal false])
      (Casino.after [Casino.flip, Casino.reveal false, Casino.flip]) :=
    .step Casino.flip .refl (Casino.flip_allowed _)
  have gone : (Casino.after [Casino.flip, Casino.reveal false]).world.entropy.Gone symbolic
      (Sample.provider, 1) := by
    refine ⟨?_, rfl⟩
    unfold World.Used
    decide +kernel
  obtain ⟨same, _, gone'⟩ := games_final reach rfl later gone
  refine ⟨?_, gone'⟩
  rw [same]
  decide +kernel

end Dice.Joint
