import Mathlib.AlgebraicGeometry.EllipticCurve.Affine.Point
import Mathlib.Tactic.FieldSimp
import Mathlib.Tactic.LinearCombination
/-!
# The group law in Jacobian coordinates

On a curve `y² = x³ + b` over any field, three coordinates stand for a point of the group: `z = 0`
for its zero, and else `(x / z², y / z³)` for the affine point. Twice a point and the sum of two
points with different first coordinates are computed by polynomials in these coordinates. Both are
proved from the slopes of tangent and chord.
-/
namespace SigValidation.Curve

open WeierstrassCurve.Affine

variable {K : Type} [Field K] {b : K}

/-- The curve `y² = x³ + b`. -/
def shortCurve (b : K) : WeierstrassCurve.Affine K := ⟨0, 0, 0, 0, b⟩

@[simp] theorem negY_shortCurve (x y : K) : (shortCurve b).negY x y = -y := by
  simp [negY, shortCurve]

/-- The coordinates stand for a point of the curve. -/
inductive Stands (b X Y Z : K) : (shortCurve b).Point → Prop where
  | zero (z_zero : Z = 0) : Stands b X Y Z 0
  | affine {x y : K} (on_curve : (shortCurve b).Nonsingular x y) (z_nonzero : Z ≠ 0)
      (first : X = x * Z ^ 2)
      (second : Y = y * Z ^ 3) : Stands b X Y Z (.some x y on_curve)

namespace Stands

variable {X Y Z X' Y' Z' : K} {P P' : (shortCurve b).Point}

theorem eq_zero_iff (h : Stands b X Y Z P) : P = 0 ↔ Z = 0 := by
  cases h with
  | zero z_zero => exact iff_of_true rfl z_zero
  | affine on_curve z_nonzero first second =>
    exact iff_of_false (Point.some_ne_zero on_curve) z_nonzero

/-- Two points with one first coordinate are the same or opposite. -/
theorem eq_or_eq_neg (h : Stands b X Y Z P) (h' : Stands b X' Y' Z' P') (z_nonzero : Z ≠ 0)
    (z_nonzero' : Z' ≠ 0) (meet : X' * Z ^ 2 = X * Z' ^ 2) :
    (P' = P ↔ Y' * Z ^ 3 = Y * Z' ^ 3) ∧ (P' = P ∨ P' = -P) := by
  cases h with
  | zero z_zero => exact absurd z_zero z_nonzero
  | @affine x y on_curve _ first second =>
    cases h' with
    | zero z_zero => exact absurd z_zero z_nonzero'
    | @affine x' y' on_curve' _ first' second' =>
      have scale : Z ^ 2 * Z' ^ 2 ≠ 0 :=
        mul_ne_zero (pow_ne_zero 2 z_nonzero) (pow_ne_zero 2 z_nonzero')
      have scale_cubed : Z ^ 3 * Z' ^ 3 ≠ 0 :=
        mul_ne_zero (pow_ne_zero 3 z_nonzero) (pow_ne_zero 3 z_nonzero')
      have same_first : x' = x := by
        apply mul_right_cancel₀ scale
        rw [first, first'] at meet
        linear_combination meet
      subst same_first
      have second_iff : Y' * Z ^ 3 = Y * Z' ^ 3 ↔ y' = y := by
        rw [second, second']
        constructor
        · intro same
          apply mul_right_cancel₀ scale_cubed
          linear_combination same
        · rintro rfl
          ring
      refine ⟨?_, ?_⟩
      · rw [second_iff, Point.some.injEq]
        exact ⟨And.right, And.intro rfl⟩
      · rw [Point.neg_some, Point.some.injEq, Point.some.injEq, negY_shortCurve]
        rcases Y_eq_of_X_eq on_curve'.left on_curve.left rfl with same | opposite
        · exact Or.inl ⟨rfl, same⟩
        · rw [negY_shortCurve] at opposite
          exact Or.inr ⟨rfl, opposite⟩

variable [DecidableEq K]

theorem double (two_nonzero : (2 : K) ≠ 0) (h : Stands b X Y Z P) :
    Stands b ((3 * X ^ 2) ^ 2 - 8 * X * Y ^ 2)
      (3 * X ^ 2 * (4 * X * Y ^ 2 - ((3 * X ^ 2) ^ 2 - 8 * X * Y ^ 2)) - 8 * Y ^ 4)
        (2 * Y * Z) (P + P) := by
  cases h with
  | zero z_zero =>
    rw [add_zero]
    exact .zero (by rw [z_zero, mul_zero])
  | @affine x y on_curve z_nonzero first second =>
    by_cases flat : y = 0
    · have upright : y = (shortCurve b).negY x y := by rw [negY_shortCurve, flat, neg_zero]
      rw [Point.add_self_of_Y_eq upright]
      exact .zero (by rw [second, flat]; ring)
    · have turning : y ≠ (shortCurve b).negY x y := by
        rw [negY_shortCurve]
        intro same
        have twice : 2 * y = 0 := by linear_combination same
        exact flat ((mul_eq_zero.mp twice).resolve_left two_nonzero)
      have tangent : (shortCurve b).slope x x y y = 3 * x ^ 2 / (2 * y) := by
        rw [slope_of_Y_ne rfl turning, negY_shortCurve]
        simp [shortCurve, two_mul]
      rw [Point.add_self_of_Y_ne turning]
      refine .affine _ ?_ ?_ ?_
      · rw [second]
        exact mul_ne_zero (mul_ne_zero two_nonzero
          (mul_ne_zero flat (pow_ne_zero 3 z_nonzero))) z_nonzero
      · simp only [addX, tangent, first, second]
        simp only [shortCurve]
        field_simp
        ring
      · simp only [addY, negAddY, addX, negY_shortCurve, tangent, first, second]
        simp only [shortCurve]
        field_simp
        ring

/-- The sum of two points with different first coordinates. -/
theorem add (h : Stands b X Y Z P) (h' : Stands b X' Y' Z' P') (z_nonzero : Z ≠ 0)
    (z_nonzero' : Z' ≠ 0) (apart : X' * Z ^ 2 ≠ X * Z' ^ 2) :
    let U := X * Z' ^ 2
    let S := Y * Z' ^ 3
    let H := X' * Z ^ 2 - U
    let R := Y' * Z ^ 3 - S
    let T := R ^ 2 - H ^ 3 - 2 * (U * H ^ 2)
    Stands b T (R * (U * H ^ 2 - T) - S * H ^ 3) (H * Z * Z') (P + P') := by
  intro U S H R T
  cases h with
  | zero z_zero => exact absurd z_zero z_nonzero
  | @affine x y on_curve _ first second =>
    cases h' with
    | zero z_zero => exact absurd z_zero z_nonzero'
    | @affine x' y' on_curve' _ first' second' =>
      have differ : x ≠ x' := by
        rintro rfl
        apply apart
        rw [first, first']
        ring
      have gap : x - x' ≠ 0 := sub_ne_zero.mpr differ
      have H_eq : H = (x' - x) * Z ^ 2 * Z' ^ 2 := by simp only [H, U, first, first']; ring
      have R_eq : R = (y' - y) * Z ^ 3 * Z' ^ 3 := by simp only [R, S, second, second']; ring
      have chord : (shortCurve b).slope x x' y y' = (y - y') / (x - x') := slope_of_X_ne differ
      rw [Point.add_of_X_ne differ]
      refine .affine _ ?_ ?_ ?_
      · exact mul_ne_zero (mul_ne_zero (sub_ne_zero.mpr apart) z_nonzero) z_nonzero'
      · simp only [addX, chord, T, H_eq, R_eq, U, first]
        simp only [shortCurve]
        field_simp
        ring
      · simp only [addY, negAddY, addX, negY_shortCurve, chord, T, H_eq, R_eq, U, S, first, second]
        simp only [shortCurve]
        field_simp
        ring

end Stands

end SigValidation.Curve
