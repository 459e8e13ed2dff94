import SigValidation.Curve.Point
import SigValidation.Proofs.Curve.Jacobian
import SigValidation.Proofs.Curve.Residue
/-!
# Computing in the group of points

The affine points of the curve and one point at infinity are a group. Coordinates in Jacobian form
represent its elements, and each operation on them the operation of the group: sums, multiples and
sums of two multiples. The affine coordinates depend on the element alone.

The generator has the order `groupOrder`, so its multiples are counted by the classes of scalars,
and a sum of multiples is the multiple by the sum. With a key that is such a multiple itself, the
linear combination a verifier computes is one too.
-/
namespace SigValidation.Curve

open WeierstrassCurve.Affine

abbrev Element : Type := (shortCurve (7 : ZMod fieldPrime)).Point

/-- The equation checked on coordinates is that of the curve over the field. -/
theorem equation_iff_onCurve {x y : Coordinate} :
    (shortCurve (7 : ZMod fieldPrime)).Equation (residue x) (residue y) ↔ OnCurve x y := by
  have seven : residue (7 : Coordinate) = 7 := residue_ofNat 7
  rw [equation_iff, OnCurve, ← residue_injective.eq_iff, residue_add, residue_mul,
    residue_mul, residue_mul, seven, shortCurve]
  constructor <;> intro h <;> linear_combination h

/-- The curve has no singular point. -/
theorem nonsingular_of_onCurve {x y : Coordinate} (h : OnCurve x y) :
    (shortCurve (7 : ZMod fieldPrime)).Nonsingular (residue x) (residue y) := by
  refine (equation_iff_nonsingular_of_Δ_ne_zero ?_).mp (equation_iff_onCurve.mpr h)
  simp only [WeierstrassCurve.Δ, WeierstrassCurve.b₂, WeierstrassCurve.b₄,
    WeierstrassCurve.b₆, WeierstrassCurve.b₈, shortCurve]
  decide +kernel

/-- An affine point as an element of the group. -/
def AffinePoint.element (p : AffinePoint) : Element :=
  .some (residue p.x) (residue p.y) (nonsingular_of_onCurve p.onCurve)

theorem AffinePoint.element_negate (p : AffinePoint) : p.negate.element = -p.element := by
  simp only [element, Point.neg_some, negY_shortCurve, negate, residue_neg]

/-- The coordinates of an element other than zero. -/
def coordinates? : Element → Option (ZMod fieldPrime × ZMod fieldPrime)
  | .zero => none
  | .some x y _ => some (x, y)

theorem coordinates?_injective : Function.Injective coordinates? := by
  intro P Q same
  cases P with
  | zero =>
    cases Q with
    | zero => rfl
    | some => cases same
  | some x y on_curve =>
    cases Q with
    | zero => cases same
    | some x' y' on_curve' =>
      cases same
      rfl

theorem coordinates?_element (p : AffinePoint) :
    coordinates? p.element = some (residue p.x, residue p.y) := rfl

/-- The coordinates represent an element of the group. -/
def Point.Represents (p : Point) (element : Element) : Prop :=
  Stands 7 (residue p.x) (residue p.y) (residue p.z) element

theorem AffinePoint.represents_toPoint (p : AffinePoint) : p.toPoint.Represents p.element := by
  refine .affine _ ?_ ?_ ?_
  · simp [toPoint]
  · simp [toPoint]
  · simp [toPoint]

namespace Point

variable {p q : Point} {P Q : Element}

theorem represents_infinity : infinity.Represents 0 := .zero (by rw [infinity, residue_zero])

namespace Represents

/-- The point at infinity alone has a zero third coordinate. -/
theorem z_eq_zero_iff (h : p.Represents P) : p.z = 0 ↔ P = 0 := by
  rw [h.eq_zero_iff, residue_eq_zero_iff]

theorem double (h : p.Represents P) : p.double.Represents (P + P) := by
  have doubled := Stands.double (by decide +kernel) h
  simp only [Represents, Point.double, residue_add, residue_sub, residue_mul]
  convert doubled using 1 <;> ring

/-- The sum of coordinates represents the sum in the group, in each of its cases. -/
theorem add (h : p.Represents P) (h' : q.Represents Q) : (p.add q).Represents (P + Q) := by
  by_cases p_zero : p.z = 0
  · rw [Point.add, if_pos p_zero, h.z_eq_zero_iff.mp p_zero, zero_add]
    exact h'
  by_cases q_zero : q.z = 0
  · rw [Point.add, if_neg p_zero, if_pos q_zero, h'.z_eq_zero_iff.mp q_zero, add_zero]
    exact h
  have nonzero : residue p.z ≠ 0 := fun zero => p_zero (residue_eq_zero_iff.mp zero)
  have nonzero' : residue q.z ≠ 0 := fun zero => q_zero (residue_eq_zero_iff.mp zero)
  rw [Point.add, if_neg p_zero, if_neg q_zero]
  dsimp only
  by_cases meet : q.x * (p.z * p.z) - p.x * (q.z * q.z) = 0
  · have firsts := congrArg residue meet
    have seconds : q.y * (p.z * p.z) * p.z - p.y * (q.z * q.z) * q.z = 0 ↔
        residue q.y * residue p.z ^ 3 = residue p.y * residue q.z ^ 3 := by
      rw [← residue_eq_zero_iff, residue_sub, sub_eq_zero, residue_mul, residue_mul,
        residue_mul, residue_mul, residue_mul, residue_mul]
      constructor <;> intro h <;> linear_combination h
    simp only [residue_sub, residue_mul, residue_zero] at firsts
    obtain ⟨same_iff, alike⟩ :=
      Stands.eq_or_eq_neg h h' nonzero nonzero' (by linear_combination firsts)
    rw [if_pos meet]
    by_cases same : q.y * (p.z * p.z) * p.z - p.y * (q.z * q.z) * q.z = 0
    · rw [if_pos same, same_iff.mpr (seconds.mp same)]
      exact h.double
    · have opposite := alike.resolve_left fun equal => same (seconds.mpr (same_iff.mp equal))
      rw [if_neg same, opposite, add_neg_cancel]
      exact represents_infinity
  · have apart : residue q.x * residue p.z ^ 2 ≠ residue p.x * residue q.z ^ 2 := by
      intro equal
      apply meet
      rw [← residue_eq_zero_iff, residue_sub, residue_mul, residue_mul, residue_mul, residue_mul]
      linear_combination equal
    have sum := Stands.add h h' nonzero nonzero' apart
    rw [if_neg meet]
    simp only [Represents, residue_sub, residue_mul, residue_add]
    convert sum using 1 <;> ring

/-- The even part of a multiple, and what the lowest bit adds to it. -/
theorem nsmul_eq_halves (n : Nat) (P : Element) :
    n • P = (n / 2) • P + (n / 2) • P + (n % 2) • P := by
  rw [← add_nsmul, ← add_nsmul]
  congr 1
  omega

/-- The bits of the number tell where the point is added between the doublings. -/
theorem multiple (h : p.Represents P) {n bits : Nat} (fits : n < 2 ^ bits) :
    (p.multiple n bits).Represents (n • P) := by
  induction bits generalizing n with
  | zero =>
    have none_left : n = 0 := by omega
    rw [none_left, zero_nsmul]
    exact represents_infinity
  | succ bits ih =>
    have half := (ih (n := n / 2) (by omega)).double
    rw [Point.multiple, nsmul_eq_halves n]
    rcases Nat.mod_two_eq_zero_or_one n with even | odd
    · rw [if_neg (by omega), even, zero_nsmul, add_zero]
      exact half
    · rw [if_pos odd, odd, one_nsmul]
      exact half.add h

/-- The same with the bits of two numbers: where both are set, the sum of the points is added. -/
theorem combination (h : p.Represents P) (h' : q.Represents Q) {m n bits : Nat}
    (fits : m < 2 ^ bits) (fits' : n < 2 ^ bits) :
    (Point.combination p q (p.add q) m n bits).Represents (m • P + n • Q) := by
  induction bits generalizing m n with
  | zero =>
    have none_left : m = 0 := by omega
    have none_left' : n = 0 := by omega
    rw [none_left, none_left', zero_nsmul, zero_nsmul, add_zero]
    exact represents_infinity
  | succ bits ih =>
    have half := (ih (m := m / 2) (n := n / 2) (by omega) (by omega)).double
    rw [add_add_add_comm] at half
    rw [Point.combination, nsmul_eq_halves m, nsmul_eq_halves n, add_add_add_comm]
    rcases Nat.mod_two_eq_zero_or_one m with even | odd <;>
      rcases Nat.mod_two_eq_zero_or_one n with even' | odd'
    · rw [even, even']
      simpa using half
    · rw [even, odd']
      simpa using half.add h'
    · rw [odd, even']
      simpa using half.add h
    · rw [odd, odd']
      simpa using half.add (h.add h')

/-- The affine coordinates are those of the element. -/
theorem map_affine? (h : p.Represents P) :
    p.affine?.map (Prod.map residue residue) = coordinates? P := by
  cases h with
  | zero z_zero =>
    rw [affine?, if_pos (residue_eq_zero_iff.mp z_zero)]
    rfl
  | @affine x y on_curve z_nonzero first second =>
    have inverse : residue p.z.inverse = (residue p.z)⁻¹ :=
      residue_power_sub_two (by decide) p.z (by decide)
    have x_eq : residue (p.x * (p.z.inverse * p.z.inverse)) = x := by
      rw [residue_mul, residue_mul, inverse, first]
      field_simp
    have y_eq : residue (p.y * (p.z.inverse * p.z.inverse) * p.z.inverse) = y := by
      rw [residue_mul, residue_mul, residue_mul, inverse, second]
      field_simp
    rw [affine?, if_neg fun zero => z_nonzero (residue_eq_zero_iff.mpr zero)]
    simp only [Option.map_some, Prod.map, x_eq, y_eq, coordinates?]

/-- Coordinates that represent one element, or opposite ones, have the same first affine
coordinate. -/
theorem map_fst_affine?_eq (h : p.Represents P) (h' : q.Represents Q) (alike : Q = P ∨ Q = -P) :
    q.affine?.map Prod.fst = p.affine?.map Prod.fst := by
  have first {p : Point} {P : Element} (h : p.Represents P) :
      (p.affine?.map Prod.fst).map residue = (coordinates? P).map Prod.fst := by
    rw [← h.map_affine?, Option.map_map, Option.map_map]
    rfl
  apply Option.map_injective residue_injective
  rw [first h, first h']
  rcases alike with rfl | rfl
  · rfl
  · cases P <;> rfl

theorem affine?_eq_none_iff (h : p.Represents P) : p.affine? = none ↔ P = 0 := by
  rw [affine?, ← h.z_eq_zero_iff]
  split <;> simp_all

/-- The affine coordinates are those of the element represented. -/
theorem affine?_eq_some_iff (h : p.Represents P) {a : AffinePoint} :
    p.affine? = some (a.x, a.y) ↔ P = a.element := by
  rw [← coordinates?_injective.eq_iff, ← h.map_affine?, coordinates?_element,
    ← (Option.map_injective (residue_injective.prodMap residue_injective)).eq_iff]
  rfl

end Represents

end Point

def generatorPoint : AffinePoint := ⟨generator.x, generator.y, by decide +kernel⟩

def base : Element := generatorPoint.element

theorem represents_generator : generator.Represents base := generatorPoint.represents_toPoint

/-- The order of the generator divides `groupOrder`. -/
theorem groupOrder_nsmul_base : groupOrder • base = 0 := by
  have last : (generator.multiple groupOrder 256).Represents (groupOrder • base) :=
    represents_generator.multiple (by decide)
  exact last.z_eq_zero_iff.mp (by decide +kernel)

/-- The multiples of the generator, by integers. -/
def integerMultiples : {multiples : ℤ →+ Element // multiples (groupOrder : ℤ) = 0} :=
  ⟨zmultiplesHom Element base, by rw [zmultiplesHom_apply, natCast_zsmul, groupOrder_nsmul_base]⟩

/-- The multiples of the generator, by the classes of scalars. -/
def scaled : ZMod groupOrder →+ Element := ZMod.lift groupOrder integerMultiples

theorem scaled_residue (k : Scalar) : scaled (residue k) = k.val • base := by
  have lifted := ZMod.lift_coe groupOrder integerMultiples (k.val : ℤ)
  rw [Int.cast_natCast, integerMultiples, zmultiplesHom_apply, natCast_zsmul] at lifted
  exact lifted

theorem nsmul_scaled (k : Scalar) (multiplier : ZMod groupOrder) :
    k.val • scaled multiplier = scaled (residue k * multiplier) := by
  rw [← map_nsmul, nsmul_eq_mul, residue]

theorem val_lt_two_pow (k : Scalar) : k.val < 2 ^ 256 := Nat.lt_trans k.isLt (by decide)

theorem represents_timesGenerator (k : Scalar) :
    k.timesGenerator.Represents (scaled (residue k)) := by
  rw [scaled_residue]
  exact represents_generator.multiple (val_lt_two_pow k)

/-- A multiple with affine coordinates is not the one by zero. -/
theorem residue_ne_zero_of_affine? {k : Scalar} {coordinates : Coordinate × Coordinate}
    (found : k.timesGenerator.affine? = some coordinates) : residue k ≠ 0 := by
  intro zero
  have represents := represents_timesGenerator k
  rw [zero, map_zero] at represents
  rw [represents.affine?_eq_none_iff.mpr rfl] at found
  cases found

/-- With a key that is a multiple of the generator, the combination is one too. -/
theorem represents_linearCombination {q : Point} {multiplier : ZMod groupOrder}
    (h : q.Represents (scaled multiplier)) (a b : Scalar) :
    (linearCombination a b q).Represents (scaled (residue a + residue b * multiplier)) := by
  rw [map_add, scaled_residue, ← nsmul_scaled]
  exact represents_generator.combination h (val_lt_two_pow a) (val_lt_two_pow b)

end SigValidation.Curve
