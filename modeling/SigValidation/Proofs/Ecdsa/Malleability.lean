import SigValidation.Checker
import SigValidation.Proofs.Check.Recut
import SigValidation.Proofs.Ecdsa.Der
/-!
# Both halves of an ECDSA signature

With every signature `(r, s)` comes a second one, `(r, groupOrder - s)`. The group's order is odd,
so exactly one of the two lies in the lower half, and verification by itself accepts no other.
Normalization takes both to that one (`normalize_ofNumbers`), so the base checker answers alike for
both, and as verification answers for the lower one.
-/
namespace SigValidation

open Curve

/-- Of a number and its opposite exactly one lies in the lower half. -/
theorem Curve.halves (s : Nat) :
    min s (groupOrder - s) ≤ groupOrder / 2 ∧ groupOrder / 2 < max s (groupOrder - s) := by
  have odd : groupOrder % 2 = 1 := by decide
  omega

namespace Curve.Scalar

variable {s : Nat}

theorem isHigh_mk (below : s < groupOrder) : isHigh ⟨s, below⟩ = decide (groupOrder / 2 < s) := rfl

theorem neg_mk (below : s < groupOrder) (opposite_below : groupOrder - s < groupOrder) :
    -(⟨s, below⟩ : Scalar) = ⟨groupOrder - s, opposite_below⟩ := by
  apply Fin.ext
  rw [Fin.val_neg']
  exact Nat.mod_eq_of_lt opposite_below

end Curve.Scalar

namespace Ecdsa.Der

variable {r s : Nat}

theorem ofNumbers_of_none (none : Scalar.ofNat? r = none) (s : Nat) : ofNumbers r s = ⟨0, 0⟩ := by
  rw [ofNumbers, none]

theorem ofNumbers_of_some {a : Scalar} (first : Scalar.ofNat? r = some a) (below : s < groupOrder) :
    ofNumbers r s = ⟨a, s, below⟩ := by
  rw [ofNumbers, first, Scalar.ofNat?, dif_pos below]

/-- Verification by itself never accepts a second number in the upper half. -/
theorem isValidLow_ofNumbers (high : groupOrder / 2 < s) (below : s < groupOrder) (digest : Bytes32)
    (key : AffinePoint) : isValidLow (ofNumbers r s) digest key = false := by
  cases first : Scalar.ofNat? r with
  | none =>
    rw [ofNumbers_of_none first]
    rfl
  | some a =>
    rw [ofNumbers_of_some first below, isValidLow, Scalar.isHigh_mk, decide_eq_true high,
      Bool.or_true, if_pos rfl]

/-- Normalization takes the second number to whichever of it and its opposite lies in the lower
half. -/
theorem normalize_ofNumbers (below : s < groupOrder) :
    (ofNumbers r s).normalize = ofNumbers r (min s (groupOrder - s)) := by
  have lower_below : min s (groupOrder - s) < groupOrder :=
    Nat.lt_of_le_of_lt (Nat.min_le_left ..) below
  cases first : Scalar.ofNat? r with
  | none =>
    rw [ofNumbers_of_none first, ofNumbers_of_none first]
    rfl
  | some a =>
    rw [ofNumbers_of_some first below, ofNumbers_of_some first lower_below,
      Signature.normalize, Scalar.isHigh_mk]
    by_cases high : groupOrder / 2 < s
    · have opposite : min s (groupOrder - s) = groupOrder - s := Nat.min_eq_right (by omega)
      rw [if_pos (decide_eq_true high), Scalar.neg_mk below (opposite ▸ lower_below)]
      simp only [opposite]
    · have itself : min s (groupOrder - s) = s := Nat.min_eq_left (by omega)
      rw [if_neg (by rw [decide_eq_false high]; decide)]
      simp only [itself]

end Ecdsa.Der

/-- The verdict over bytes that are read is that of verification over the normalized signature. -/
theorem Check.isValidEcdsa_of_parse? {signature : Bytes} {parsed : Ecdsa.Signature}
    (reads : Ecdsa.Der.parse? signature = some parsed) (key : Bytes) (sighash : SigHash) :
    isValidEcdsa signature key sighash =
      (AffinePoint.ofTagged? key).any (Ecdsa.isValidLow parsed.normalize sighash.bytes) := by
  rw [isValidEcdsa, reads]
  cases AffinePoint.ofTagged? key <;> rfl

namespace BaseChecker

open Ecdsa

/-- For every `r`, every `s` from one to the greatest scalar, any bytes that are read as `(r, s)`
and any that are read as `(r, groupOrder - s)`: the base checker gives one answer for both, and it
is the answer of verification for the one of the two whose second number lies in the lower half.
Verification by itself refuses the other one. -/
theorem check_ecdsa_opposite (base : BaseChecker) {r s : Nat} (positive : 1 ≤ s)
    (below : s ≤ groupOrder - 1) {signature opposite : Bytes}
    (reads : Der.parse? signature = some (Der.ofNumbers r s))
    (reads_opposite : Der.parse? opposite = some (Der.ofNumbers r (groupOrder - s))) (key : Bytes)
    (sighash : SigHash) :
    let low := min s (groupOrder - s)
    let high := max s (groupOrder - s)
    base.check (.ecdsa signature key sighash) = base.check (.ecdsa opposite key sighash) ∧
      base.check (.ecdsa signature key sighash) =
        (AffinePoint.ofTagged? key).any (isValidLow (Der.ofNumbers r low) sighash.bytes) ∧
      low ≤ groupOrder / 2 ∧ groupOrder / 2 < high ∧
      ∀ point, isValidLow (Der.ofNumbers r high) sighash.bytes point = false := by
  intro low high
  have order_pos : 0 < groupOrder := by decide
  have s_below : s < groupOrder := by omega
  have opposite_below : groupOrder - s < groupOrder := by omega
  have high_below : high < groupOrder := Nat.max_lt.mpr ⟨s_below, opposite_below⟩
  have low_opposite : min (groupOrder - s) (groupOrder - (groupOrder - s)) = low := by
    rw [Nat.sub_sub_self (Nat.le_of_lt s_below), Nat.min_comm]
  obtain ⟨low_half, high_half⟩ := halves s
  have answer := Check.isValidEcdsa_of_parse? reads key sighash
  have answer_opposite := Check.isValidEcdsa_of_parse? reads_opposite key sighash
  rw [Der.normalize_ofNumbers s_below] at answer
  rw [Der.normalize_ofNumbers opposite_below, low_opposite] at answer_opposite
  exact ⟨answer.trans answer_opposite.symm, answer, low_half, high_half,
    Der.isValidLow_ofNumbers high_half high_below sighash.bytes⟩

/-- The sample signature, and its opposite with one byte behind it: both are accepted. -/
theorem check_ecdsa_opposite_sample :
    let base : BaseChecker := ⟨"", 0, ⟨0, Nat.zero_le _⟩, {}⟩
    let r := 0xeca07b913f74366974a89b522c51ca7fe52542839222c5be270ba50614506796
    let s := 0x67925b96dbe3f4c156a68e96c9df937f60f585b5b66811d8480d793d4aa67041
    let signature := 0x30 :: Check.sampleTail
    let opposite := Der.write ⟨Scalar.ofNat r, Scalar.ofNat (groupOrder - s)⟩ ++ [0xff]
    let sighash : SigHash :=
      ⟨Bytes32.ofNat 0x000000025a5a5a5a5a5a5a5a5a5a5a5a5a5a5a5a5a5a5a5a5a5a5a5a5a5a5a5a⟩
    1 ≤ s ∧ s ≤ groupOrder - 1 ∧ Der.parse? signature = some (Der.ofNumbers r s) ∧
      Der.parse? opposite = some (Der.ofNumbers r (groupOrder - s)) ∧
      base.check (.ecdsa signature Check.sampleKey sighash) = true ∧
      base.check (.ecdsa opposite Check.sampleKey sighash) = true := by
  intro base r s signature opposite sighash
  have positive : 1 ≤ s := by decide
  have below : s ≤ groupOrder - 1 := by decide
  have reads : Der.parse? signature = some (Der.ofNumbers r s) := by decide +kernel
  have written : (⟨Scalar.ofNat r, Scalar.ofNat (groupOrder - s)⟩ : Signature) =
    Der.ofNumbers r (groupOrder - s) := by
    decide +kernel
  have reads_opposite : Der.parse? opposite = some (Der.ofNumbers r (groupOrder - s)) := by
    rw [← written]
    exact Der.parse?_write_append _ _
  have accepted : base.check (.ecdsa signature Check.sampleKey sighash) = true :=
    Check.isValid_ecdsaSample
  have alike :=
    (check_ecdsa_opposite base positive below reads reads_opposite Check.sampleKey sighash).1
  exact ⟨positive, below, reads, reads_opposite, accepted, alike ▸ accepted⟩

end BaseChecker

end SigValidation
