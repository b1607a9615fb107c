/-
**Every game has its request**, in every run of the oracle and the game together.

* `Linked` — the invariant between the two contracts: the active requests of the game contract are
  exactly those of its open games, but for games whose request was cleared by a callback that failed;
  every resolved game has the number that the oracle published; the locked wagers are those of the
  open games.
* `Linked.flipped`, `Linked.answered` — what a flip and a callback do to it; `Linked.spared` and
  `Linked.sameGames` are the rest.
* `Fixes` — what is done to the games whose request is not active: nothing.
-/

import Dice.Consumer.Joint
import Dice.Contract.Spares

set_option linter.unusedSectionVars false

namespace Dice.Joint

variable {Bytes32 : Type}

open CoinFlip (House Side Game Setting)

/-! ### The invariant -/

def Both.game (b : Both Bytes32) (n : ℕ) : Game Bytes32 :=
  b.house.storage.games n

/-- The oracle's name of a game. -/
def Both.key (b : Both Bytes32) (n : ℕ) : RequestKey :=
  (b.house.storage.provider, n)

/-- `Revealed` was emitted for a request of this caller, with this number and outcome. -/
def Published (caller : Address) (key : RequestKey) (randomNumber : Bytes32) (callbackFailed : Bool)
    (w : World Bytes32) : Prop :=
  ∃ u v ret gasUsed, .emitted (.revealed key.1 caller key.2 randomNumber u v callbackFailed ret
    gasUsed) ∈ w.history

variable (K : Keccak Bytes32) (odd : Bytes32 → Bool) (a : Addresses) [DecidableEq Bytes32]

/-- **The invariant between the contracts.** -/
structure Linked (b : Both Bytes32) : Prop where
  asked : ∀ {key req}, b.entropy.state.lookup K key = some req → req.requester = a.coinFlip →
    key = b.key key.2 ∧ (b.game key.2).Open ∧ req.callbackStatus ≠ .inProgress
  numbered : ∀ {n}, (b.game n).player ≠ 0 → b.entropy.Used (b.key n) ∧
    ∀ req, b.entropy.state.lookup K (b.key n) = some req → req.requester = a.coinFlip
  waits : ∀ {n}, (b.game n).Open → (∃ req, b.entropy.state.lookup K (b.key n) = some req) ∨
    ∃ randomNumber, Published a.coinFlip (b.key n) randomNumber true b.entropy
  settled : ∀ {n}, (b.game n).state ≠ .pending → (b.game n).player ≠ 0 ∧
    Published a.coinFlip (b.key n) (b.game n).randomNumber false b.entropy
  locked : Pool.Totals b.house.storage.lockedWagers b.house.stakes

variable {K} {odd} {a} {b b' b₁ b₂ b₃ : Both Bytes32} {m : Message Bytes32}
variable {w w₁ w₃ : World Bytes32} {pending : Pending Bytes32} {result : CallResult}

theorem Published.mono {caller : Address} {key : RequestKey} {randomNumber : Bytes32}
    {callbackFailed : Bool} (published : Published caller key randomNumber callbackFailed w)
    (grows : w.history <:+ w₁.history) : Published caller key randomNumber callbackFailed w₁ := by
  obtain ⟨u, v, ret, gasUsed, member⟩ := published
  exact ⟨u, v, ret, gasUsed, grows.subset member⟩

/-- **The oracle does something about requests of others.** -/
theorem Linked.spared (linked : Linked K a b) {entropy : World Bytes32}
    (keeps : Keeps K b.entropy entropy) {target : Option RequestKey}
    (spares : Spares K target b.entropy entropy)
    (others : ∀ key, target = some key →
      (∀ req, b.entropy.state.lookup K key = some req → req.requester ≠ a.coinFlip) ∧
        ∀ req, entropy.state.lookup K key = some req → req.requester ≠ a.coinFlip) :
    Linked K a { b with entropy } where
  asked := by
    intro key req found mine
    have other : target ≠ some key := fun same => (others key same).2 req found mine
    obtain ⟨req₀, before, same, free⟩ := spares.old other found
    obtain ⟨named, live, settled⟩ := linked.asked before (same.requester ▸ mine)
    exact ⟨named, live, fun inProgress => settled (free inProgress)⟩
  numbered := by
    intro n player
    obtain ⟨used, mine⟩ := linked.numbered player
    refine ⟨used.mono keeps.counter, fun req found => ?_⟩
    obtain ⟨req₀, before, same⟩ := keeps.request used found
    rw [same.requester]
    exact mine req₀ before
  waits := by
    intro n live
    rcases linked.waits live with ⟨req, found⟩ | ⟨randomNumber, published⟩
    · have mine := (linked.numbered live.1).2 req found
      have other : target ≠ some (b.key n) := fun same => (others _ same).1 req found mine
      obtain ⟨req', kept, _⟩ := spares.kept other found
      exact .inl ⟨req', kept⟩
    · exact .inr ⟨randomNumber, published.mono keeps.history⟩
  settled := by
    intro n resolved
    obtain ⟨player, published⟩ := linked.settled resolved
    exact ⟨player, published.mono keeps.history⟩
  locked := linked.locked

/-- Two states of the game contract with the same games. -/
structure SameGames (h h' : House Bytes32) : Prop where
  provider : h'.storage.provider = h.storage.provider
  games : h'.storage.games = h.storage.games
  lockedWagers : h'.storage.lockedWagers = h.storage.lockedWagers

/-- **The game contract pays, or changes its owner.** -/
theorem Linked.sameGames (linked : Linked K a b) {house : House Bytes32}
    (same : SameGames b.house house) : Linked K a { b with house } := by
  have game : ∀ n, ({ b with house } : Both Bytes32).game n = b.game n := congrFun same.games
  have key : ∀ n, ({ b with house } : Both Bytes32).key n = b.key n := fun n => by
    rw [Both.key, same.provider]
    rfl
  have stakes : house.stakes = b.house.stakes := by
    funext n
    rw [CoinFlip.House.stakes, same.games]
    rfl
  refine ⟨fun found mine => ?_, fun player => ?_, fun live => ?_, fun resolved => ?_, ?_⟩
  · rw [key, game]
    exact linked.asked found mine
  · rw [key]
    exact linked.numbered (game _ ▸ player)
  · rw [key]
    exact linked.waits (game _ ▸ live)
  · rw [key, game]
    exact linked.settled (game _ ▸ resolved)
  · rw [stakes, same.lockedWagers]
    exact linked.locked

/-- **One game and its request change**, and nothing about the others. -/
theorem Linked.rewrite (linked : Linked K a b) (keeps : Keeps K b.entropy b'.entropy) (n : ℕ)
    (game : Game Bytes32) (spares : Spares K (some (b.key n)) b.entropy b'.entropy)
    (provider : b'.house.storage.provider = b.house.storage.provider)
    (games : b'.house.storage.games = Function.update b.house.storage.games n game)
    (asked : ∀ req, b'.entropy.state.lookup K (b.key n) = some req → req.requester = a.coinFlip →
      game.Open ∧ req.callbackStatus ≠ .inProgress)
    (numbered : game.player ≠ 0 → b'.entropy.Used (b.key n) ∧
      ∀ req, b'.entropy.state.lookup K (b.key n) = some req → req.requester = a.coinFlip)
    (waits : game.Open → (∃ req, b'.entropy.state.lookup K (b.key n) = some req) ∨
      ∃ randomNumber, Published a.coinFlip (b.key n) randomNumber true b'.entropy)
    (settled : game.state ≠ .pending → game.player ≠ 0 ∧
      Published a.coinFlip (b.key n) game.randomNumber false b'.entropy)
    (locked : Pool.Totals b'.house.storage.lockedWagers b'.house.stakes) : Linked K a b' := by
  have key : ∀ k, b'.key k = b.key k := fun k => by rw [Both.key, provider, Both.key]
  have this : b'.game n = game := by
    rw [Both.game, games, Function.update_self]
  have other : ∀ {k}, k ≠ n → b'.game k = b.game k := fun different => by
    rw [Both.game, games, Function.update_of_ne different, Both.game]
  have elsewhere : ∀ {k}, k ≠ n → some (b.key n) ≠ some (b.key k) := fun different same =>
    different (Prod.mk.inj (Option.some.inj same)).2.symm
  refine ⟨?_, ?_, ?_, ?_, locked⟩
  · intro k req found mine
    by_cases same : k = b.key n
    · subst same
      obtain ⟨live, free⟩ := asked req found mine
      refine ⟨(key n).symm, ?_, free⟩
      rw [show (b.key n).2 = n from rfl, this]
      exact live
    · obtain ⟨req₀, before, kept, free⟩ := spares.old (fun hit => same (Option.some.inj hit).symm)
        found
      obtain ⟨named, live, settled⟩ := linked.asked before (kept.requester ▸ mine)
      have different : k.2 ≠ n := fun hit => same (by rw [named, hit])
      rw [key, other different]
      exact ⟨named, live, fun inProgress => settled (free inProgress)⟩
  · intro k player
    rw [key]
    by_cases same : k = n
    · subst same
      exact numbered (this ▸ player)
    · rw [other same] at player
      obtain ⟨used, mine⟩ := linked.numbered player
      refine ⟨used.mono keeps.counter, fun req found => ?_⟩
      obtain ⟨req₀, before, kept⟩ := keeps.request used found
      rw [kept.requester]
      exact mine req₀ before
  · intro k live
    rw [key]
    by_cases same : k = n
    · subst same
      exact waits (this ▸ live)
    · rw [other same] at live
      rcases linked.waits live with ⟨req, found⟩ | ⟨randomNumber, published⟩
      · obtain ⟨req', kept, _⟩ := spares.kept (elsewhere same) found
        exact .inl ⟨req', kept⟩
      · exact .inr ⟨randomNumber, published.mono keeps.history⟩
  · intro k resolved
    rw [key]
    by_cases same : k = n
    · subst same
      rw [this] at resolved ⊢
      exact settled resolved
    · rw [other same] at resolved ⊢
      obtain ⟨player, published⟩ := linked.settled resolved
      exact ⟨player, published.mono keeps.history⟩

/-- The stakes follow the game that is written. -/
theorem Linked.restake (linked : Linked K a b) {house : House Bytes32} {n lockedWagers : ℕ}
    {game : Game Bytes32}
    (games : house.storage.games = Function.update b.house.storage.games n game)
    (wagers : b.house.storage.lockedWagers - (b.game n).staked + game.staked = lockedWagers) :
    Pool.Totals lockedWagers house.stakes := by
  have changed := linked.locked.change house.stakes n fun k different => by
    rw [CoinFlip.House.stakes, games, Function.update_of_ne different]
    rfl
  have this : house.stakes n = game.staked := by
    rw [CoinFlip.House.stakes, games, Function.update_self]
  rwa [this, show b.house.stakes n = (b.game n).staked from rfl, wagers] at changed

/-- The next number of the game's provider. -/
def Both.next (b : Both Bytes32) : ℕ :=
  (b.entropy.state.providers b.house.storage.provider).sequenceNumber

/-- It belongs to no game. -/
theorem Linked.fresh (linked : Linked K a b) : (b.game b.next).player = 0 := by
  by_contra player
  exact b.entropy.requested_fresh _ (linked.numbered player).1

/-- What a flip leaves. -/
theorem Flipped.effect {msg : Msg} {guess : Side} {userRandom : Bytes32} {wager : ℕ}
    (flipped : Flipped K a msg guess userRandom wager b b') :
    (∃ gasLimit10k, RequestChecks b.entropy (requestMsg a (quotedFee b)) b.house.storage.provider
        CoinFlip.callbackGas gasLimit10k ∧
      b'.entropy = b.entropy.requested K (requestMsg a (quotedFee b)) b.house.storage.provider
        userRandom gasLimit10k) ∧
      b'.house = (b.house.staking msg.sender wager).flipped K b.next msg.sender guess wager
        (quotedFee b) := by
  obtain ⟨house, pending, seq, flip, request, rest⟩ := flipped
  obtain ⟨fee, quoted, _, _, _, _, rfl, rfl⟩ := CoinFlip.flip_ok flip
  cases quoted
  obtain ⟨gasLimit10k, checks, rfl, entropy⟩ := requestV2_ok request
  refine ⟨⟨gasLimit10k, checks, entropy⟩, ?_⟩
  generalize b'.house = finished at rest
  cases CoinFlip.resume_ok rest with
  | flip _ => rfl

/-- **A flip** makes one request and opens one game, under a number that no game has. -/
theorem Linked.flipped (linked : Linked K a b) (sound : Sound K b.entropy) {msg : Msg}
    {guess : Side} {userRandom : Bytes32} {wager : ℕ}
    (flipped : Flipped K a msg guess userRandom wager b b') : Linked K a b' := by
  obtain ⟨⟨gasLimit10k, checks, entropy⟩, house⟩ := flipped.effect
  obtain ⟨entropy', house'⟩ := b'
  simp only at entropy house
  subst entropy house
  have half : Finishes K ⟨requestMsg a (quotedFee b),
      .requestV2 b.house.storage.provider userRandom CoinFlip.callbackGas⟩ b.entropy _ :=
    .requested rfl checks
  have lookup := lookup_requested sound (requestMsg a (quotedFee b)) userRandom gasLimit10k
    checks.registered
  have found : (b.entropy.requested K (requestMsg a (quotedFee b)) b.house.storage.provider
      userRandom gasLimit10k).state.lookup K (b.key b.next) =
      some (madeRequest K b.entropy (requestMsg a (quotedFee b)) b.house.storage.provider userRandom
        gasLimit10k) := by
    rw [lookup]
    exact Function.update_self _ _ _
  have unopened : ¬ (b.game b.next).Open := fun live => live.1 linked.fresh
  have live : (CoinFlip.newGame K msg.sender guess wager).Open := ⟨msg.sender_ne_zero, rfl⟩
  refine linked.rewrite (half.evolves sound).2.toKeeps b.next
    (CoinFlip.newGame K msg.sender guess wager) ⟨?_, ?_⟩ rfl rfl ?_ ?_ (fun _ => .inl ⟨_, found⟩)
    (fun resolved => absurd rfl resolved) ?_
  · intro key req other before
    refine ⟨req, ?_, .refl _⟩
    rw [lookup, Function.update_of_ne fun same => other (by rw [same]; rfl)]
    exact before
  · intro key req' other after
    rw [lookup, Function.update_of_ne fun same => other (by rw [same]; rfl)] at after
    exact ⟨req', after, .refl _, id⟩
  · intro req after _
    obtain rfl := Option.some.inj (found.symm.trans after)
    exact ⟨live, nofun⟩
  · intro _
    refine ⟨b.entropy.requested_used _ _ _ _, fun req after => ?_⟩
    obtain rfl := Option.some.inj (found.symm.trans after)
    rfl
  · refine linked.restake rfl ?_
    rw [Game.staked, if_neg unopened, Game.staked, if_pos live]
    rfl

/-! ### Callbacks -/

/-- A waiting reveal that calls somebody: its request, and the number it delivers. -/
theorem callee_calls (calls : Calls K m w w₁ pending) {recipient provider : Address} {n : ℕ}
    {randomNumber : Bytes32}
    (called : callee w₁ pending = some (recipient, n, provider, randomNumber)) :
    ∃ req u v, RevealChecks K w provider n u v req ∧ req.requester = recipient ∧
      pending.target = some (provider, n) ∧ randomNumber = revealedNumber K w req u v := by
  cases calls with
  | @limited provider' n' startingGas endingGas len u v req call checks status limit =>
    obtain ⟨_, _, _, read⟩ := (Calls.limited call checks status limit).limited_found checks.found
    simp only [callee, read, Option.some.injEq, Prod.mk.injEq] at called
    obtain ⟨rfl, rfl, rfl, rfl⟩ := called
    exact ⟨req, u, v, checks, rfl, rfl, rfl⟩
  | @unlimited provider' n' startingGas endingGas len u v req _ checks _ _ =>
    simp only [callee, Option.some.injEq, Prod.mk.injEq] at called
    obtain ⟨rfl, rfl, rfl, rfl⟩ := called
    exact ⟨req, u, v, checks, rfl, rfl, rfl⟩
  | refund _ _ _ _ _ => cases called
  | withdrawal _ _ _ _ => cases called
  | foreign _ => cases called

/-- **A callback that is answered at once.** If it succeeded the request is cleared and the number
published; if not, the request is kept as failed, or it is cleared and the failure published. -/
theorem answered_resumes (sound : Sound K w) (calls : Calls K m w w₁ pending)
    {recipient provider : Address} {n : ℕ} {randomNumber : Bytes32}
    (called : callee w₁ pending = some (recipient, n, provider, randomNumber))
    (resumes : Resumes K result w₁ pending w₃) :
    (result.success = true ∧ w₃.state.lookup K (provider, n) = none ∧
        Published recipient (provider, n) randomNumber false w₃) ∨
      result.success = false ∧
        ((∃ req, w₃.state.lookup K (provider, n) = some req ∧ req.requester = recipient ∧
            req.callbackStatus = .failed) ∨
          w₃.state.lookup K (provider, n) = none ∧
            Published recipient (provider, n) randomNumber true w₃) := by
  have sound₁ := (calls.advances sound).1
  cases calls with
  | @limited provider' n' startingGas endingGas len u v req call checks status limit =>
    obtain ⟨_, _, _, read⟩ := (Calls.limited call checks status limit).limited_found checks.found
    simp only [callee, read, Option.some.injEq, Prod.mk.injEq] at called
    obtain ⟨rfl, rfl, rfl, rfl⟩ := called
    cases resumes with
    | limitedDelivered success _ _ =>
      have sound' := sound₁.withStatus (findRequest K w.state provider' n')
        (show CallbackStatus.notStarted ≠ .notNecessary by decide)
      refine .inl ⟨success, none_of_removed sound'.wf rfl, ?_⟩
      rw [read]
      exact ⟨u, v, _, _, List.mem_cons_self⟩
    | limitedFailed failure _ _ _ =>
      refine .inr ⟨failure, .inl ⟨{ req with callbackStatus := .failed }, ?_, rfl, rfl⟩⟩
      have key : ({ req with callbackStatus := .inProgress } : Request Bytes32).key =
          some (provider', n') := SlotTable.Scheme.lookup_key checks.found
      have written := State.lookup_setCallbackStatus sound₁.wf
        (findRequest K w.state provider' n') .failed (provider', n')
      rw [read, if_pos key] at written
      exact written
  | @unlimited provider' n' startingGas endingGas len u v req _ checks _ _ =>
    simp only [callee, Option.some.injEq, Prod.mk.injEq] at called
    obtain ⟨rfl, rfl, rfl, rfl⟩ := called
    have gone : ((w.accepted provider' n' v).cleared K provider' n').state.lookup K
        (provider', n') = none := none_of_removed sound.wf rfl
    cases resumes with
    | unlimitedDelivered success _ _ =>
      exact .inl ⟨success, gone, u, v, _, _, List.mem_cons_self⟩
    | unlimitedFailed failure _ _ =>
      exact .inr ⟨failure, .inr ⟨gone, u, v, _, _, List.mem_cons_self⟩⟩
  | refund _ _ _ _ _ => cases called
  | withdrawal _ _ _ _ => cases called
  | foreign _ => cases called

/-- An accepted callback resolves its game and releases its wager. -/
theorem accepted_effect {house house' : House Bytes32} {n : ℕ} {provider : Address}
    {randomNumber : Bytes32}
    (accepted : CoinFlip.entropyCallbackExternal odd house (callbackMsg a) n provider randomNumber =
      .ok house') :
    ∃ state, state ≠ .pending ∧ house'.storage.provider = house.storage.provider ∧
      house'.storage.games = Function.update house.storage.games n
        { house.storage.games n with randomNumber, state } ∧
      house'.storage.lockedWagers = house.storage.lockedWagers - (house.storage.games n).wager := by
  obtain ⟨_, called⟩ := CoinFlip.entropyCallbackExternal_ok accepted
  obtain ⟨_, _, rfl⟩ := CoinFlip.entropyCallback_ok called
  split
  · exact ⟨.won, nofun, rfl, rfl, rfl⟩
  · exact ⟨.lost, nofun, rfl, rfl, rfl⟩

/-! ### What does not change any more -/

variable (K) in
/-- A game without an active request stays as it is. -/
structure Fixes (b b' : Both Bytes32) : Prop where
  keeps : Keeps K b.entropy b'.entropy
  provider : b'.house.storage.provider = b.house.storage.provider
  games : ∀ n, b.entropy.Gone K (b.key n) → b'.game n = b.game n

theorem Fixes.key (fixes : Fixes K b b') (n : ℕ) : b'.key n = b.key n := by
  rw [Both.key, fixes.provider, Both.key]

theorem Fixes.trans (first : Fixes K b b₁) (second : Fixes K b₁ b₂) : Fixes K b b₂ where
  keeps := first.keeps.trans second.keeps
  provider := second.provider.trans first.provider
  games n gone := by
    have gone₁ : b₁.entropy.Gone K (b₁.key n) := by
      rw [first.key]
      exact gone.mono first.keeps
    exact (second.games n gone₁).trans (first.games n gone)

/-- The game contract is left alone. -/
theorem Fixes.of_entropy (keeps : Keeps K b.entropy b'.entropy) (same : b'.house = b.house) :
    Fixes K b b' :=
  ⟨keeps, by rw [same], fun n _ => by rw [Both.game, same, Both.game]⟩

/-- The oracle is left alone, and so are the games. -/
theorem Fixes.of_house (entropy : b'.entropy = b.entropy) (same : SameGames b.house b'.house) :
    Fixes K b b' := by
  refine ⟨?_, same.provider, fun n _ => by rw [Both.game, same.games, Both.game]⟩
  rw [entropy]
  exact (Evolves.refl b.entropy).toKeeps

/-- Only a game with an active request, or a new one, is written. -/
theorem Fixes.of_write (keeps : Keeps K b.entropy b'.entropy) {n : ℕ} {game : Game Bytes32}
    (provider : b'.house.storage.provider = b.house.storage.provider)
    (games : b'.house.storage.games = Function.update b.house.storage.games n game)
    (open_ : ¬ b.entropy.Gone K (b.key n)) : Fixes K b b' := by
  refine ⟨keeps, provider, fun k gone => ?_⟩
  have different : k ≠ n := fun same => open_ (same ▸ gone)
  rw [Both.game, games, Function.update_of_ne different, Both.game]

theorem Fixes.flipped (sound : Sound K b.entropy) {msg : Msg} {guess : Side}
    {userRandom : Bytes32} {wager : ℕ}
    (flipped : Flipped K a msg guess userRandom wager b b') : Fixes K b b' := by
  obtain ⟨⟨gasLimit10k, checks, entropy⟩, house⟩ := flipped.effect
  have half : Finishes K ⟨requestMsg a (quotedFee b),
      .requestV2 b.house.storage.provider userRandom CoinFlip.callbackGas⟩ b.entropy b'.entropy := by
    rw [entropy]
    exact .requested rfl checks
  refine .of_write (n := b.next) (half.evolves sound).2.toKeeps (by rw [house]; rfl)
    (by rw [house]; rfl) fun gone => ?_
  exact b.entropy.requested_fresh _ gone.1

/-- **A callback to the game.** -/
theorem Linked.answered (linked : Linked K a b) (sound : Sound K b.entropy)
    {entropy₁ : World Bytes32} (calls : Calls K m b.entropy entropy₁ pending) {provider : Address}
    {n : ℕ} {randomNumber : Bytes32}
    (called : callee entropy₁ pending = some (a.coinFlip, n, provider, randomNumber))
    (answered : Answered odd a b.house n provider randomNumber result.success b'.house)
    (resumes : Resumes K result entropy₁ pending b'.entropy) : Linked K a b' ∧ Fixes K b b' := by
  obtain ⟨req, u, v, checks, mine, target, _⟩ := callee_calls calls called
  obtain ⟨named, live, _⟩ := linked.asked checks.found mine
  obtain rfl : provider = b.house.storage.provider := congrArg Prod.fst named
  have sound₁ := (calls.advances sound).1
  have evolves := whole_evolves sound calls sound₁ (.refl _) resumes fun _ => rfl
  have spares : Spares K (some (b.key n)) b.entropy b'.entropy := by
    have both := (calls.spares sound).trans (resumes.spares sound₁)
    rwa [target] at both
  have active : ¬ b.entropy.Gone K (b.key n) := not_gone_of_found checks.found
  have used := (sound.used checks.found).mono evolves.counter
  rcases answered with ⟨failure, same⟩ | ⟨success, accepted⟩
  · have games : b'.house.storage.games =
        Function.update b.house.storage.games n (b.game n) := by
      rw [same]
      exact (Function.update_eq_self n _).symm
    have provider : b'.house.storage.provider = b.house.storage.provider := by rw [same]
    have outcome : (∃ req, b'.entropy.state.lookup K (b.key n) = some req ∧
        req.requester = a.coinFlip ∧ req.callbackStatus = .failed) ∨
        b'.entropy.state.lookup K (b.key n) = none ∧
          Published a.coinFlip (b.key n) randomNumber true b'.entropy := by
      rcases answered_resumes sound calls called resumes with ⟨success, _⟩ | ⟨_, outcome⟩
      · rw [failure] at success
        cases success
      · exact outcome
    refine ⟨linked.rewrite evolves.toKeeps n (b.game n) spares provider games ?_ (fun _ => ?_)
      (fun _ => ?_) (fun resolved => absurd live.2 resolved) (by rw [same]; exact linked.locked),
      .of_write evolves.toKeeps provider games active⟩
    · intro req' after _
      rcases outcome with ⟨kept, found, _, failed⟩ | ⟨gone, _⟩
      · obtain rfl := Option.some.inj (found.symm.trans after)
        exact ⟨live, by rw [failed]; exact nofun⟩
      · rw [gone] at after
        cases after
    · refine ⟨used, fun req' after => ?_⟩
      obtain ⟨req₀, before, kept⟩ := evolves.request (sound.used checks.found) after
      rw [kept.requester]
      exact (linked.numbered live.1).2 req₀ before
    · rcases outcome with ⟨kept, found, _⟩ | ⟨_, published⟩
      · exact .inl ⟨kept, found⟩
      · exact .inr ⟨randomNumber, published⟩
  · obtain ⟨state, resolved, provider, games, wagers⟩ := accepted_effect accepted
    have outcome : b'.entropy.state.lookup K (b.key n) = none ∧
        Published a.coinFlip (b.key n) randomNumber false b'.entropy := by
      rcases answered_resumes sound calls called resumes with ⟨_, outcome⟩ | ⟨failure, _⟩
      · exact outcome
      · rw [success] at failure
        cases failure
    refine ⟨linked.rewrite evolves.toKeeps n _ spares provider games ?_ (fun _ => ⟨used, ?_⟩)
      (fun still => absurd still.2 resolved) (fun _ => ⟨live.1, outcome.2⟩)
      (linked.restake games ?_), .of_write evolves.toKeeps provider games active⟩
    · intro req' after _
      rw [outcome.1] at after
      cases after
    · intro req' after
      rw [outcome.1] at after
      cases after
    · rw [wagers, Game.staked, if_pos live, Game.staked, if_neg fun still => resolved still.2]
      rfl

end Dice.Joint
