/-
**Writing values as other values, and reading them back.**

* `Codec` — a way to write the values of a type that meet a condition, with the law that they can be
  read back; so they are written differently (`Codec.injective`).
* `Codec.via` — values that are first turned into others.
* `decimal` — natural numbers below a bound in decimal digits; `unsigned` also reads a plus sign.
* `asI64`, `asU64` — unsigned 64-bit numbers as signed ones with the same bits, and back.
-/

import Mathlib.Data.Nat.Basic
import Mathlib.Algebra.GroupWithZero.Nat
import Mathlib.Tactic.Common

structure Codec (α T : Type) (P : α → Prop) where
  encode : α → T
  decode : T → Option α
  decode_encode : ∀ {a}, P a → decode (encode a) = some a

namespace Codec

variable {α β T : Type} {P : α → Prop}

/-- Different values are written differently. -/
theorem injective (codec : Codec α T P) {first second : α} (valid : P first) (valid' : P second)
    (same : codec.encode first = codec.encode second) : first = second := by
  have read := codec.decode_encode valid
  rw [same, codec.decode_encode valid'] at read
  exact (Option.some.inj read).symm

/-- Values that are turned into others to be written. -/
def via (codec : Codec α T P) (write : β → α) (read : α → Option β)
    (valid : ∀ b, P (write b)) (read_write : ∀ b, read (write b) = some b) :
    Codec β T fun _ => True where
  encode b := codec.encode (write b)
  decode text := (codec.decode text).bind read
  decode_encode := by
    intro b _
    rw [codec.decode_encode (valid b)]
    exact read_write b

/-- Decimal digits. -/
def decimal (bound : ℕ) : Codec ℕ (List Char) (· < bound) where
  encode n := Nat.toDigits 10 n
  decode text :=
    if text ≠ [] ∧ text.all Char.isDigit then
      let n := Nat.ofDigitChars 10 text 0
      if n < bound then some n else none
    else none
  decode_encode := by
    intro n below
    have digits : (Nat.toDigits 10 n).all Char.isDigit = true :=
      List.all_eq_true.mpr fun c member =>
        Nat.isDigit_of_mem_toDigits (by decide) (by decide) member
    rw [if_pos ⟨Nat.toDigits_ne_nil, digits⟩]
    show (if Nat.ofDigitChars 10 (Nat.toDigits 10 n) 0 < bound then _ else _) = _
    rw [Nat.ofDigitChars_ten_toDigits, if_pos below]

/-- A digit is not a plus sign. -/
theorem ne_plus_of_mem {n : ℕ} {c : Char} (member : c ∈ Nat.toDigits 10 n) : c ≠ '+' := by
  rintro rfl
  have digit : ('+').isDigit = true := Nat.isDigit_of_mem_toDigits (by decide) (by decide) member
  cases digit

/-- Decimal digits, after a plus sign or without one. -/
def unsigned (bound : ℕ) : Codec ℕ (List Char) (· < bound) where
  encode := (decimal bound).encode
  decode
    | '+' :: text => (decimal bound).decode text
    | text => (decimal bound).decode text
  decode_encode := by
    intro n below
    split
    · next text written =>
      have member : '+' ∈ Nat.toDigits 10 n := by
        show '+' ∈ (decimal bound).encode n
        rw [written]
        exact List.mem_cons_self
      exact absurd rfl (ne_plus_of_mem member)
    · exact (decimal bound).decode_encode below

/-- Only numbers below the bound are read. -/
theorem decimal_decode_lt {bound n : ℕ} {text : List Char}
    (decoded : (decimal bound).decode text = some n) : n < bound := by
  unfold decimal at decoded
  simp only [Option.ite_none_right_eq_some, Option.some.injEq] at decoded
  obtain ⟨_, below, rfl⟩ := decoded
  exact below

theorem unsigned_decode_lt {bound n : ℕ} {text : List Char}
    (decoded : (unsigned bound).decode text = some n) : n < bound := by
  unfold unsigned at decoded
  simp only at decoded
  split at decoded <;> exact decimal_decode_lt decoded

/-! ### 64 bits -/

/-- `as i64`. -/
def asI64 (n : ℕ) : ℤ := Int.bmod n (2 ^ 64)

/-- `as u64`. -/
def asU64 (z : ℤ) : ℕ := (z % (2 ^ 64 : ℕ)).toNat

/-- **The bits stay.** -/
theorem asU64_asI64 {n : ℕ} (below : n < 2 ^ 64) : asU64 (asI64 n) = n := by
  have same : Int.bmod (n : ℤ) (2 ^ 64) % (2 ^ 64 : ℕ) = (n : ℤ) % (2 ^ 64 : ℕ) := Int.bmod_emod
  unfold asU64 asI64
  rw [same, ← Int.natCast_emod, Int.toNat_natCast]
  exact Nat.mod_eq_of_lt below

/-- The upper half of the unsigned numbers is negative. -/
theorem toNat_asI64 {n : ℕ} (below : n < 2 ^ 64) :
    (asI64 n).toNat = if n < 2 ^ 63 then n else 0 := by
  unfold asI64
  rw [Int.bmod_def]
  split <;> split <;> omega

theorem asI64_injective {first second : ℕ} (below : first < 2 ^ 64) (below' : second < 2 ^ 64)
    (same : asI64 first = asI64 second) : first = second := by
  rw [← asU64_asI64 below, same, asU64_asI64 below']

end Codec
