/-
**Byte strings as numbers and as hex text.**

* `value` — the number that a byte string writes, its first byte first. Byte strings of one length
  write different numbers; `ofNat` writes a number.
* `Shortest` — the shortest byte string of a number, of which there is one (`Shortest.unique`);
  `strip` computes it by dropping zero bytes from the front.
* `encode`, `decode` — two hex digits for each byte, and back.
-/

import Mathlib.Algebra.GroupWithZero.Nat
import Mathlib.Data.List.Basic
import Mathlib.Tactic.Common

namespace Hex

/-! ### Numbers -/

/-- The number that a byte string writes. -/
def value : List UInt8 → ℕ
  | [] => 0
  | byte :: bytes => byte.toNat * 256 ^ bytes.length + value bytes

theorem value_lt (bytes : List UInt8) : value bytes < 256 ^ bytes.length := by
  induction bytes with
  | nil => exact Nat.one_pos
  | cons byte bytes ih =>
    have small : byte.toNat + 1 ≤ 256 := byte.toNat_lt
    have scaled := Nat.mul_le_mul_right (256 ^ bytes.length) small
    rw [Nat.add_mul] at scaled
    show byte.toNat * 256 ^ bytes.length + value bytes < 256 ^ (bytes.length + 1)
    rw [Nat.pow_succ]
    omega

/-- The last bytes of a number. -/
def ofNat : ℕ → ℕ → List UInt8
  | 0, _ => []
  | length + 1, n => UInt8.ofNat (n / 256 ^ length) :: ofNat length n

theorem ofNat_length (length n : ℕ) : (ofNat length n).length = length := by
  induction length with
  | zero => rfl
  | succ length ih => exact congrArg (· + 1) ih

/-- **A number that fits is written.** -/
theorem value_ofNat (length n : ℕ) : value (ofNat length n) = n % 256 ^ length := by
  induction length with
  | zero => exact (Nat.mod_one n).symm
  | succ length ih =>
    show (UInt8.ofNat (n / 256 ^ length)).toNat * 256 ^ (ofNat length n).length +
      value (ofNat length n) = _
    rw [ih, ofNat_length, UInt8.toNat_ofNat', Nat.mod_pow_succ (b := 256), Nat.add_comm, Nat.mul_comm]

/-- A quotient and a remainder. -/
theorem quotient_unique {scale a b x y : ℕ} (small : x < scale) (small' : y < scale)
    (same : a * scale + x = b * scale + y) : a = b ∧ x = y := by
  have positive : 0 < scale := Nat.lt_of_le_of_lt (Nat.zero_le x) small
  have heads : a = b := by
    have quotients := congrArg (· / scale) same
    simp only [Nat.mul_comm _ scale, Nat.mul_add_div positive, Nat.div_eq_of_lt small,
      Nat.div_eq_of_lt small', Nat.add_zero] at quotients
    exact quotients
  subst heads
  exact ⟨rfl, Nat.add_left_cancel same⟩

/-- **One byte string of each length.** -/
theorem value_injective {first second : List UInt8} (length : first.length = second.length)
    (same : value first = value second) : first = second := by
  induction first generalizing second with
  | nil => exact (List.length_eq_zero_iff.mp length.symm).symm
  | cons byte bytes ih =>
    cases second with
    | nil => cases length
    | cons byte' bytes' =>
      have length' : bytes.length = bytes'.length := Nat.succ.inj length
      simp only [value, length'] at same
      have below := value_lt bytes
      rw [length'] at below
      obtain ⟨heads, tails⟩ := quotient_unique below (value_lt bytes') same
      rw [UInt8.toNat_inj.mp heads, ih length' tails]

/-- **The shortest byte string of a number.** -/
structure Shortest (bytes : List UInt8) (n : ℕ) : Prop where
  nonempty : bytes ≠ []
  writes : value bytes = n
  least : ∀ other, other ≠ [] → value other = n → bytes.length ≤ other.length

theorem Shortest.unique {first second : List UInt8} {n : ℕ} (shortest : Shortest first n)
    (shortest' : Shortest second n) : first = second :=
  value_injective
    (Nat.le_antisymm (shortest.least second shortest'.nonempty shortest'.writes)
      (shortest'.least first shortest.nonempty shortest.writes))
    (shortest.writes.trans shortest'.writes.symm)

/-- Zero bytes are dropped from the front, but for the last byte. -/
def strip : List UInt8 → List UInt8
  | [] => []
  | [byte] => [byte]
  | first :: second :: bytes =>
      if first = 0 then strip (second :: bytes) else first :: second :: bytes

/-- Without a zero byte in front nothing is shorter. -/
theorem shortest_of_head {byte : UInt8} {bytes : List UInt8} (nonzero : byte ≠ 0) :
    Shortest (byte :: bytes) (value (byte :: bytes)) := by
  refine ⟨List.cons_ne_nil _ _, rfl, fun other _ same => ?_⟩
  have positive : 0 < byte.toNat := Nat.pos_of_ne_zero fun zero => nonzero (UInt8.toNat_inj.mp zero)
  have reached : 256 ^ bytes.length ≤ value (byte :: bytes) :=
    Nat.le_trans (Nat.le_mul_of_pos_left _ positive) (Nat.le_add_right _ _)
  have below := value_lt other
  rw [same] at below
  exact (Nat.pow_lt_pow_iff_right (by decide)).mp (Nat.lt_of_le_of_lt reached below)

theorem strip_shortest {bytes : List UInt8} (nonempty : bytes ≠ []) :
    Shortest (strip bytes) (value bytes) := by
  induction bytes with
  | nil => exact absurd rfl nonempty
  | cons first bytes ih =>
    cases bytes with
    | nil => exact ⟨nonempty, rfl, fun other some _ => List.length_pos_iff.mpr some⟩
    | cons second bytes =>
      unfold strip
      split
      · next zero =>
        have same : value (first :: second :: bytes) = value (second :: bytes) := by
          rw [zero]
          show 0 * _ + _ = _
          rw [Nat.zero_mul, Nat.zero_add]
        rw [same]
        exact ih (List.cons_ne_nil _ _)
      · next nonzero => exact shortest_of_head nonzero

theorem strip_length_le (bytes : List UInt8) : (strip bytes).length ≤ bytes.length := by
  induction bytes with
  | nil => exact Nat.le_refl _
  | cons first bytes ih =>
    cases bytes with
    | nil => exact Nat.le_refl _
    | cons second bytes =>
      unfold strip
      split
      · exact Nat.le_succ_of_le ih
      · exact Nat.le_refl _

/-- **What `strip` leaves alone**: two bytes and more, the first of which is not zero. -/
theorem strip_length_iff {bytes : List UInt8} (long : 2 ≤ bytes.length) :
    (strip bytes).length = bytes.length ↔ bytes.head? ≠ some 0 := by
  match bytes, long with
  | first :: second :: bytes, _ =>
    unfold strip
    split
    · next zero =>
      have shorter := strip_length_le (second :: bytes)
      rw [zero]
      simp only [List.length_cons, List.head?_cons] at shorter ⊢
      constructor
      · omega
      · exact fun nonzero => absurd rfl nonzero
    · next nonzero => exact ⟨fun _ same => nonzero (Option.some.inj same), fun _ => rfl⟩

theorem strip_eq_self {bytes : List UInt8} (nonempty : bytes ≠ [])
    (same : (strip bytes).length = bytes.length) : strip bytes = bytes :=
  value_injective same (strip_shortest nonempty).writes

/-! ### Text -/

/-- The value of a hex digit, in either case. -/
def digitValue (c : Char) : Option ℕ :=
  if '0' ≤ c ∧ c ≤ '9' then some (c.toNat - '0'.toNat)
  else if 'a' ≤ c ∧ c ≤ 'f' then some (c.toNat - 'a'.toNat + 10)
  else if 'A' ≤ c ∧ c ≤ 'F' then some (c.toNat - 'A'.toNat + 10)
  else none

/-- Two digits for each byte, in lower case. -/
def encode : List UInt8 → List Char
  | [] => []
  | byte :: bytes =>
      Nat.digitChar (byte.toNat / 16) :: Nat.digitChar (byte.toNat % 16) :: encode bytes

/-- The bytes of an even number of digits. -/
def decode : List Char → Option (List UInt8)
  | [] => some []
  | [_] => none
  | high :: low :: text => do
      let h ← digitValue high
      let l ← digitValue low
      let bytes ← decode text
      pure (UInt8.ofNat (16 * h + l) :: bytes)

theorem digitValue_digitChar {d : ℕ} (small : d < 16) : digitValue (Nat.digitChar d) = some d := by
  revert d
  decide

/-- **Round trip.** -/
theorem decode_encode (bytes : List UInt8) : decode (encode bytes) = some bytes := by
  induction bytes with
  | nil => rfl
  | cons byte bytes ih =>
    have small : byte.toNat < 256 := byte.toNat_lt
    have high : byte.toNat / 16 < 16 := by omega
    have low : byte.toNat % 16 < 16 := Nat.mod_lt _ (by decide)
    show (digitValue _ >>= fun h => digitValue _ >>= fun l => decode (encode bytes) >>= fun bytes =>
      pure (UInt8.ofNat (16 * h + l) :: bytes)) = _
    rw [digitValue_digitChar high, digitValue_digitChar low, ih]
    show some (UInt8.ofNat (16 * (byte.toNat / 16) + byte.toNat % 16) :: bytes) = _
    rw [Nat.div_add_mod, UInt8.ofNat_toNat]

end Hex
