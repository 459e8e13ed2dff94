import SigValidation.Proofs.Digits
import SigValidation.Proofs.Check.Item
import SigValidation.Proofs.Curve.GroupLaw
/-!
# Keys that are written and read back

A key in 33 bytes is read back as the point it was written for, and the first coordinate alone as
that of the two points over it whose second coordinate is even. The reader takes a square root,
which is the second coordinate or its negative, and the parity tells the two apart, for the field's
order is odd.
-/
namespace SigValidation.Curve

namespace Coordinate

theorem ofBytes?_toBytes (a : Coordinate) : ofBytes? a.toBytes = some a := by
  have below : a.val < 2 ^ 256 := Nat.lt_trans a.isLt (by decide)
  rw [ofBytes?, toBytes, Bytes32.toNat_ofNat below, ofNat?, dif_pos a.isLt]

/-- Twice the exponent of the root is half of one more than the order, and a power by the order
changes nothing. -/
theorem pow_root_mul_self (y : ZMod fieldPrime) :
    (y * y) ^ ((fieldPrime + 1) / 4) * (y * y) ^ ((fieldPrime + 1) / 4) = y * y := by
  have exponents : (fieldPrime + 1) / 4 + (fieldPrime + 1) / 4 +
    ((fieldPrime + 1) / 4 + (fieldPrime + 1) / 4) =
      fieldPrime + 1 := by decide
  rw [mul_pow, mul_mul_mul_comm, ← pow_add, ← pow_add, exponents, pow_succ, ZMod.pow_card]

/-- A square has two roots at most, each the negative of the other. -/
theorem mul_self_eq_iff {a b : Coordinate} : a * a = b * b ↔ a = b ∨ a = -b := by
  rw [← residue_injective.eq_iff, ← residue_injective.eq_iff, ← residue_injective.eq_iff,
    residue_mul, residue_mul, residue_neg]
  exact mul_self_eq_mul_self_iff

/-- A square has a root that is found, one of the two there are. -/
theorem exists_squareRoot? (y : Coordinate) :
    ∃ root, squareRoot? (y * y) = some root ∧ (root = y ∨ root = -y) := by
  have found : power (y * y) ((fieldPrime + 1) / 4) 256 *
    power (y * y) ((fieldPrime + 1) / 4) 256 = y * y := by
    apply residue_injective
    rw [residue_mul, residue_power _ (by decide), residue_mul, pow_root_mul_self]
  refine ⟨_, ?_, mul_self_eq_iff.mp found⟩
  rw [squareRoot?]
  exact if_pos found

/-- A coordinate other than zero and its negative differ in parity. -/
theorem isOdd_neg {y : Coordinate} (nonzero : y ≠ 0) : (-y).isOdd = !y.isOdd := by
  have positive : y.val ≠ 0 := fun zero => nonzero (Fin.ext zero)
  have below := y.isLt
  have odd : fieldPrime % 2 = 1 := by decide
  have opposite : (-y).val = fieldPrime - y.val := by
    rw [Fin.val_neg']
    exact Nat.mod_eq_of_lt (by omega)
  rw [isOdd, isOdd, opposite]
  rcases Nat.mod_two_eq_zero_or_one y.val with even | odd'
  · have : (fieldPrime - y.val) % 2 = 1 := by omega
    rw [even, this]
    rfl
  · have : (fieldPrime - y.val) % 2 = 0 := by omega
    rw [odd', this]
    rfl

theorem ne_zero_of_isOdd {y : Coordinate} (odd : y.isOdd = true) : y ≠ 0 := by
  rintro rfl
  cases odd

end Coordinate

namespace AffinePoint

theorem ofCoordinates?_self (p : AffinePoint) : ofCoordinates? p.x p.y = some p := dif_pos p.onCurve

/-- The first coordinate and the parity of the second give the point back. -/
theorem ofX?_self (p : AffinePoint) : ofX? p.x p.y.isOdd = some p := by
  obtain ⟨root, found, eq_or_neg⟩ := Coordinate.exists_squareRoot? p.y
  have second : (if root.isOdd = p.y.isOdd then root else -root) = p.y := by
    rcases eq_or_neg with rfl | rfl
    · rw [if_pos rfl]
    · by_cases zero : p.y = 0
      · rw [zero]
        decide
      · rw [Coordinate.isOdd_neg zero, if_neg (Bool.not_ne_self _), neg_neg]
  rw [ofX?, ← p.onCurve, found, Option.bind_eq_bind, Option.bind_some, second, ofCoordinates?_self]

/-- The point of the two over the same first coordinate whose second coordinate is even. -/
def even (p : AffinePoint) : AffinePoint := if p.y.isOdd then p.negate else p

theorem isOdd_even (p : AffinePoint) : p.even.y.isOdd = false := by
  by_cases odd : p.y.isOdd = true
  · rw [even, if_pos odd, negate, Coordinate.isOdd_neg (Coordinate.ne_zero_of_isOdd odd), odd]
    rfl
  · rw [even, if_neg odd]
    exact Bool.eq_false_iff.mpr odd

theorem x_even (p : AffinePoint) : p.even.x = p.x := by
  rw [even]
  split <;> rfl

/-- The first coordinate gives back the point up to its sign. -/
theorem ofXOnly?_toXOnly (p : AffinePoint) : ofXOnly? p.toXOnly = some p.even := by
  have read : ofXOnly? p.toXOnly = ofX? p.x false := by
    rw [ofXOnly?, toXOnly, Coordinate.ofBytes?_toBytes, Option.bind_eq_bind, Option.bind_some]
  rw [read, ← x_even, ← isOdd_even, ofX?_self]

/-- A compressed key is read back as its point. -/
theorem ofTagged?_toCompressed (p : AffinePoint) : ofTagged? p.toCompressed = some p := by
  have length : p.x.toBytes.toList.length = 32 := p.x.toBytes.length_toList
  have coordinate : (Bytes32.ofList? p.x.toBytes.toList).bind Coordinate.ofBytes? = some p.x := by
    rw [Bytes32.ofList?_toList, Option.bind_some, Coordinate.ofBytes?_toBytes]
  rw [toCompressed, ofTagged?, if_pos length, ofCompressed?, coordinate, Option.bind_eq_bind,
    Option.bind_some]
  have self := p.ofX?_self
  cases parity : p.y.isOdd with
  | false =>
    rw [parity] at self
    rw [if_neg Bool.false_ne_true, if_pos rfl, self]
  | true =>
    rw [parity] at self
    rw [if_pos rfl, if_neg (by decide), if_pos rfl, self]

theorem eq_of_ofCoordinates? {x y : Coordinate} {p : AffinePoint}
    (h : ofCoordinates? x y = some p) : p.x = x ∧ p.y = y := by
  unfold ofCoordinates? at h
  split at h
  · cases h
    exact ⟨rfl, rfl⟩
  · cases h

end AffinePoint

/-- An affine point is found only for coordinates that represent it. -/
theorem Point.Represents.eq_element {p : Point} {P : Element} (h : p.Represents P) {a : AffinePoint}
    (found : p.toAffine? = some a) : P = a.element := by
  obtain ⟨⟨x, y⟩, coordinates, on_curve⟩ := Option.bind_eq_some_iff.mp found
  obtain ⟨rfl, rfl⟩ := AffinePoint.eq_of_ofCoordinates? on_curve
  exact h.affine?_eq_some_iff.mp coordinates

/-- The key of a secret represents that multiple of the generator. -/
theorem represents_key {secret : Scalar} {key : AffinePoint}
    (own : secret.timesGenerator.toAffine? = some key) :
    key.toPoint.Represents (scaled (residue secret)) := by
  rw [(represents_timesGenerator secret).eq_element own]
  exact key.represents_toPoint

end SigValidation.Curve
