import Mathlib.Tactic.Ring
import SigValidation.Bytes.Basic
import SigValidation.Text.Format
/-!
# Numbers in base ten and in bytes

A number is written with digits only, at least one of them, and none of them a leading zero unless
it stands alone. So whoever reads digits as long as there are any, and refuses leading zeros, reads
the number back.

A number that is written into a fixed width of bytes and read back is the number modulo
`256 ^ width`, in either order of the digits, and what is read is always below that bound.
-/
namespace SigValidation

namespace Text

/-- A sign only below zero, then the digits. -/
theorem toList_decimal (n : Int) :
    (decimal n).toList = if n < 0 then '-' :: Nat.toDigits 10 n.natAbs
      else Nat.toDigits 10 n.natAbs := by
  unfold decimal
  split <;> simp

theorem isDigit_of_mem_toDigits {n : Nat} {c : Char} (member : c ∈ Nat.toDigits 10 n) :
    c.isDigit = true :=
  Nat.isDigit_of_mem_toDigits (by decide) (by decide) member

/-- Only zero begins with the digit zero. -/
theorem head?_toDigits {n : Nat} (positive : 0 < n) : (Nat.toDigits 10 n).head? ≠ some '0' := by
  have digit : ∀ d < 10, 0 < d → Nat.digitChar d ≠ '0' := by decide
  induction n using Nat.strongRecOn with
  | ind n ih =>
    rw [Nat.toDigits_eq_if (by decide)]
    by_cases small : n < 10
    · simp [small, digit n small positive]
    · rw [if_neg small, List.head?_append,
        Option.or_of_isSome (List.isSome_head?.mpr Nat.toDigits_ne_nil)]
      exact ih (n / 10) (by omega) (by omega)

/-- A leading zero stands alone. -/
theorem length_toDigits_of_head? {n : Nat} (zero : (Nat.toDigits 10 n).head? = some '0') :
    (Nat.toDigits 10 n).length = 1 := by
  rcases Nat.eq_zero_or_pos n with rfl | positive
  · rfl
  · exact absurd zero (head?_toDigits positive)

end Text

namespace Bytes

/-- A fixed width of bytes holds a number modulo the power of 256. -/
theorem toNatLE_ofNatLE (width n : Nat) : toNatLE (ofNatLE width n) = n % 256 ^ width := by
  induction width generalizing n with
  | zero => simp [ofNatLE, toNatLE, Nat.mod_one]
  | succ width ih =>
    rw [ofNatLE, toNatLE, ih, UInt8.toNat_ofNat', Nat.pow_succ' (n := width), Nat.mod_mul]

theorem toNatBE_ofNatBE (width n : Nat) : toNatBE (ofNatBE width n) = n % 256 ^ width := by
  simp [toNatBE, ofNatBE, toNatLE_ofNatLE]

theorem toNatLE_append (low high : Bytes) :
    toNatLE (low ++ high) = toNatLE low + 256 ^ low.length * toNatLE high := by
  induction low with
  | nil => simp [toNatLE]
  | cons b rest ih =>
    rw [List.cons_append, toNatLE, ih, toNatLE, List.length_cons, Nat.pow_succ]
    ring

theorem toNatBE_append (high low : Bytes) :
    toNatBE (high ++ low) = toNatBE high * 256 ^ low.length + toNatBE low := by
  rw [toNatBE, List.reverse_append, toNatLE_append, List.length_reverse, toNatBE, toNatBE]
  ring

theorem toNatLE_lt (bytes : Bytes) : toNatLE bytes < 256 ^ bytes.length := by
  induction bytes with
  | nil => simp [toNatLE]
  | cons b rest ih =>
    have := b.toNat_lt
    simp only [toNatLE, List.length_cons, Nat.pow_succ]
    omega

end Bytes

namespace Bytes32

theorem toNat_ofNat {n : Nat} (h : n < 2 ^ 256) : (ofNat n).toNat = n := by
  rw [toNat, ofNat, Bytes.toNatBE_ofNatBE]
  exact Nat.mod_eq_of_lt (Nat.lt_of_lt_of_le h (by decide))

end Bytes32

end SigValidation
