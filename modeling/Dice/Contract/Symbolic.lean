/-
**Hash functions in free terms**, and a small deployment.

`keccak256` of a list of words is a term that contains the words, so it is injective and no value is
its own iterated hash: the assumptions that results make on the hash functions hold together, and
runs can be evaluated.

The deployment has provider 46. The real `keccak256` of its request keys with the sequence numbers 1
and 2 begins with bytes whose low five bits are 15 in both cases, so these two requests meet in slot
15; `symbolic` has the same slots there.

For hash functions on byte strings, `keyBytes` writes request keys differently.
-/

import Dice.Contract.Runs

namespace Dice

/-- A word: an atom, or the hash of a list of words. -/
inductive Sym where
  | atom (n : ℕ)
  | pair (first second : Sym)
  deriving DecidableEq, Repr

namespace Sym

def hash : List Sym → Sym
  | [] => atom 0
  | word :: rest => pair word (hash rest)

theorem hash_injective : Function.Injective hash := by
  intro first
  induction first with
  | nil =>
    intro second same
    cases second with
    | nil => rfl
    | cons word rest => cases same
  | cons word rest ih =>
    intro second same
    cases second with
    | nil => cases same
    | cons word' rest' =>
      injection same with head tail
      rw [head, ih tail]

def size : Sym → ℕ
  | atom _ => 0
  | pair first second => first.size + second.size + 1

end Sym

/-- The symbolic hash functions. -/
def symbolic : Keccak Sym where
  keccak256 := Sym.hash
  requestHash provider sequenceNumber := .pair (.atom provider.toNat) (.atom sequenceNumber)
  requestHash_injective := by
    rintro ⟨provider, n⟩ ⟨provider', n'⟩ _ _ same
    injection same with first second
    injection first with first
    injection second with second
    exact Prod.ext (BitVec.eq_of_toNat_eq first) second
  shortHash _ := 15
  word := .atom

theorem symbolic_injective : Function.Injective symbolic.keccak256 := Sym.hash_injective

theorem size_iterate (value : Sym) (index : ℕ) :
    ((chainHash symbolic)^[index] value).size = value.size + index := by
  induction index with
  | zero => rfl
  | succ index ih =>
    rw [Function.iterate_succ_apply']
    show ((chainHash symbolic)^[index] value).size + 0 + 1 = value.size + (index + 1)
    omega

theorem symbolic_acyclic : HashChain.Acyclic (chainHash symbolic) := by
  intro value first second same
  have sizes := congrArg Sym.size same
  simp only [size_iterate] at sizes
  omega

/-! ### A small deployment -/

namespace Sample

def admin : Address := 1
def vault : Address := 3
def provider : Address := 46
def user : Address := 5

/-- The chain value at an index of the provider's chain of eight values. -/
def value (index : ℕ) : Sym := (chainHash symbolic)^[8 - index] (.atom 77)

/-- The user's contribution to the request with this number. -/
def contribution (n : ℕ) : Sym := .atom (1000 + n)

def deployment : Deployment Sym where
  admin := admin
  feeInWei := 10
  defaultProvider := provider
  prefillRequestStorage := false
  vault := vault
  providerCommitment := value 0
  providerChainLength := 8
  providerCommitmentMetadata := []
  refundDelayBlocks := 6
  blockNumber := 100
  blockhash := fun n => .atom n
  etherBefore := 0

/-- The deployed world. -/
def world : World Sym :=
  ((((deployment.world symbolic).setState ((deployment.state symbolic).setProvider provider
    (deployment.provider symbolic))).record (.registered provider 0 (value 0))).emit
      (.registered provider))

theorem deployed : constructor symbolic deployment = .ok world := rfl

/-- The slot of every request. -/
def slot : Fin numRequests := 15

theorem admin_ne_zero : admin ≠ 0 := by decide

theorem provider_ne_zero : provider ≠ 0 := by decide

theorem user_ne_zero : user ≠ 0 := by decide

def msg (sender : Address) (value : ℕ) (nonzero : sender ≠ 0) : Msg := ⟨sender, value, nonzero⟩

def fromUser (call : Call Sym) : Action Sym := .call ⟨msg user 0 user_ne_zero, call⟩
def fromAdmin (call : Call Sym) : Action Sym := .call ⟨msg admin 0 admin_ne_zero, call⟩
def fromProvider (call : Call Sym) : Action Sym := .call ⟨msg provider 0 provider_ne_zero, call⟩

/-- The user makes the request that will get number `n`. -/
def request (n : ℕ) : Action Sym :=
  .call ⟨msg user 10 user_ne_zero, .requestV2 provider (contribution n) 0⟩

/-- Anyone reveals request `n` to a contract, with a million gas. -/
def reveal (n : ℕ) : Action Sym :=
  fromProvider (.revealWithCallback provider n (contribution n) (value n) 1000000 0 1)

/-- The provider sets a default gas limit, so that callbacks are gas-limited. -/
def limitGas : Action Sym := fromProvider (.setDefaultGasLimit 100000)

def succeed : Action Sym := .ret ⟨true, [], 900000⟩
def failed : Action Sym := .ret ⟨false, [], 900000⟩

def wait (blocks : ℕ) : Action Sym := .idle ⟨blocks, fun n => .atom n⟩

/-- The record of the first request, made without a default gas limit. -/
def firstRequest : Request Sym where
  provider := provider
  sequenceNumber := 1
  numHashes := 1
  commitment := symbolic.keccak256 [constructUserCommitment symbolic (contribution 1), value 0]
  blockNumber := 100
  requester := user
  useBlockhash := false
  callbackStatus := .notStarted
  gasLimit10k := 0
  feePaid := 10

/-- The configuration after a list of actions. -/
def after (actions : List (Action Sym)) : Config Sym := (dice symbolic).run ⟨world, []⟩ actions

theorem reachable (actions : List (Action Sym)) : Reachable symbolic anyCall (after actions) :=
  ⟨deployment, world, deployed, .of_actions _ actions⟩

/-- What a function that does not revert returns. -/
theorem exists_of_isOk {α ε : Type} {x : Except ε α} (ok : x.isOk = true) : ∃ a, x = .ok a := by
  cases x with
  | error error => cases ok
  | ok a => exact ⟨a, rfl⟩

/-! ### Byte strings -/

/-- The 32 bytes of a number. -/
def wordBytes (n : ℕ) : Bytes := (List.range 32).reverse.map fun i => UInt8.ofNat (n / 256 ^ i)

/-- The length of the run of zeros in front, and of what follows. -/
def keyBytes (provider : Address) (n : ℕ) : Bytes :=
  List.replicate provider.toNat 0 ++ 1 :: List.replicate n 0

theorem keyBytes_injective :
    Function.Injective fun key : RequestKey => keyBytes key.1 key.2 := by
  rintro ⟨provider, n⟩ ⟨provider', n'⟩ same
  have zeros : ∀ (count rest : ℕ), ((List.replicate count 0 ++ 1 :: List.replicate rest 0 :
      Bytes).takeWhile (· = 0)).length = count := by
    intro count rest
    rw [List.takeWhile_append_of_pos (by simp), List.takeWhile_cons_of_neg (by decide),
      List.append_nil, List.length_replicate]
  have first : provider.toNat = provider'.toNat := by
    rw [← zeros provider.toNat n, ← zeros provider'.toNat n']
    exact congrArg (fun bytes : Bytes => (bytes.takeWhile (· = 0)).length) same
  have lengths := congrArg List.length same
  simp only [keyBytes, List.length_append, List.length_cons, List.length_replicate] at lengths
  exact Prod.ext (BitVec.eq_of_toNat_eq first) (by omega)

end Sample

end Dice
