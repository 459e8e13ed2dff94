import Mathlib.Data.List.Prime
import Mathlib.FieldTheory.Finite.Basic
import Mathlib.NumberTheory.LucasPrimality
import SigValidation.Curve.Modular
/-!
# Residues and their classes

Coordinates and scalars are computed as numbers below a prime. `residue` takes such a number to its
class in the ring modulo the prime, which loses nothing and carries sums and products over. Repeated
squaring is a power there (`residue_power`), and by Fermat's theorem the power whose exponent is two
below the prime is the inverse (`residue_power_sub_two`).

A number is prime if some residue has the order just below it. An entry of a certificate names such
a residue and the prime factors of that order; each factor is small enough to be tried by division,
or stands before in the list. Checking a certificate takes few multiplications and is left to
evaluation.
-/
namespace SigValidation.Curve

def residue {m : Nat} (a : Fin m) : ZMod m := (a.val : ZMod m)

section Ring

variable {m : Nat}

theorem residue_injective : Function.Injective (residue (m := m)) := by
  intro a b same
  have congruent := (ZMod.natCast_eq_natCast_iff' a.val b.val m).mp same
  rw [Nat.mod_eq_of_lt a.isLt, Nat.mod_eq_of_lt b.isLt] at congruent
  exact Fin.ext congruent

@[simp] theorem residue_add (a b : Fin m) : residue (a + b) = residue a + residue b := by
  simp [residue, Fin.val_add]

@[simp] theorem residue_mul (a b : Fin m) : residue (a * b) = residue a * residue b := by
  simp [residue, Fin.val_mul]

@[simp] theorem residue_neg (a : Fin m) : residue (-a) = -residue a := by
  rw [residue, Fin.val_neg', ZMod.natCast_mod, Nat.cast_sub a.isLt.le]
  simp [residue]

variable [NeZero m]

@[simp] theorem residue_sub (a b : Fin m) : residue (a - b) = residue a - residue b := by
  have restored : a - b + b = a := by simp
  rw [eq_sub_iff_add_eq, ← residue_add, restored]

@[simp] theorem residue_ofNat (n : Nat) : residue (Fin.ofNat m n) = n := by
  simp [residue]

@[simp] theorem residue_zero : residue (0 : Fin m) = 0 := by
  simp [residue]

@[simp] theorem residue_one : residue (1 : Fin m) = 1 := by
  have one := residue_ofNat (m := m) 1
  rwa [Nat.cast_one] at one

@[simp] theorem residue_eq_zero_iff {a : Fin m} : residue a = 0 ↔ a = 0 := by
  rw [← residue_zero (m := m), residue_injective.eq_iff]

/-- Repeated squaring computes the power, if the exponent has no more bits than are gone through. -/
theorem residue_power (a : Fin m) {exponent bits : Nat} (fits : exponent < 2 ^ bits) :
    residue (power a exponent bits) = residue a ^ exponent := by
  induction bits generalizing exponent with
  | zero =>
    have none_left : exponent = 0 := by omega
    rw [none_left, pow_zero, power, residue_one]
  | succ bits ih =>
    have half : residue (power a (exponent / 2) bits) = residue a ^ (exponent / 2) := ih (by omega)
    rw [power]
    rcases Nat.mod_two_eq_zero_or_one exponent with even | odd
    · rw [if_neg (by omega), residue_mul, half, ← pow_add]
      congr 1
      omega
    · rw [if_pos odd, residue_mul, residue_mul, half, ← pow_add, ← pow_succ]
      congr 1
      omega

/-- The power whose exponent is two below an odd prime is the inverse, and zero for zero. -/
theorem residue_power_sub_two [Fact m.Prime] (odd : 2 < m) (a : Fin m) {bits : Nat}
    (fits : m ≤ 2 ^ bits) : residue (power a (m - 2) bits) = (residue a)⁻¹ := by
  rw [residue_power a (by omega)]
  by_cases zero : residue a = 0
  · rw [zero, inv_zero, zero_pow (by omega)]
  · have one_more : m - 2 + 1 = m - 1 := by omega
    apply eq_inv_of_mul_eq_one_left
    rw [← pow_succ, one_more, ZMod.pow_card_sub_one_eq_one zero]

end Ring

/-- Small primes are told by trial division with the numbers below this bound. -/
def trialBound : Nat := 256

/-- Whether trial division finds the number prime. -/
def isSmallPrime (n : Nat) : Bool :=
  2 ≤ n && n < trialBound * trialBound && (List.range trialBound).all fun d =>
    d < 2 || n ≤ d || n % d != 0

theorem prime_of_isSmallPrime {n : Nat} (found : isSmallPrime n = true) : n.Prime := by
  simp only [isSmallPrime, Bool.and_eq_true, decide_eq_true_eq, List.all_eq_true,
    List.mem_range, Bool.or_eq_true, bne_iff_ne] at found
  obtain ⟨⟨two_le, small⟩, tried⟩ := found
  refine Nat.prime_def_le_sqrt.mpr ⟨two_le, fun d two_le_d below divides => ?_⟩
  have square := Nat.le_sqrt.mp below
  have in_range : d < trialBound :=
    Nat.mul_self_lt_mul_self_iff.mp (Nat.lt_of_le_of_lt square small)
  have proper : d < n := Nat.lt_of_lt_of_le (by nlinarith) square
  rcases tried d in_range with (least | large) | leaves
  · omega
  · omega
  · exact leaves (Nat.mod_eq_zero_of_dvd divides)

/-- One number of a certificate: a residue, and the prime factors of its order, each as often as it
occurs. The number is one more than the order. -/
structure CertifiedNumber where
  witness : Nat
  factors : List Nat

namespace CertifiedNumber

def order (c : CertifiedNumber) : Nat := c.factors.prod

def number (c : CertifiedNumber) : Nat := c.order + 1

/-- The power of the witness. Exponents have no more bits than the order. -/
def witnessPower (c : CertifiedNumber) (exponent : Nat) : Fin (c.order + 1) :=
  power (Fin.ofNat (c.order + 1) c.witness) exponent (c.order.log2 + 1)

/-- Whether the witness has the order it should, the factors being small primes or known ones. -/
def isCertified (c : CertifiedNumber) (known : List Nat) : Bool :=
  c.factors.all (fun q => isSmallPrime q || known.contains q) &&
    c.witnessPower c.order == 1 && c.factors.all fun q => c.witnessPower (c.order / q) != 1

/-- Powers of the witness are taken modulo the number that is certified. -/
theorem witnessPower_eq_one_iff {c : CertifiedNumber} {exponent : Nat}
    (below : exponent ≤ c.order) :
    c.witnessPower exponent = 1 ↔ (c.witness : ZMod (c.order + 1)) ^ exponent = 1 := by
  have fits : exponent < 2 ^ (c.order.log2 + 1) := Nat.lt_of_le_of_lt below Nat.lt_log2_self
  rw [← residue_injective.eq_iff, witnessPower, residue_power _ fits, residue_ofNat, residue_one]

/-- Lucas's test. -/
theorem prime_number {c : CertifiedNumber} {known : List Nat} (primes : ∀ q ∈ known, q.Prime)
    (certified : c.isCertified known = true) : c.number.Prime := by
  simp only [isCertified, Bool.and_eq_true, List.all_eq_true, Bool.or_eq_true,
    List.contains_iff_mem, beq_iff_eq, bne_iff_ne] at certified
  obtain ⟨⟨factors, full⟩, proper⟩ := certified
  refine lucas_primality c.number (c.witness : ZMod (c.order + 1))
    ((witnessPower_eq_one_iff le_rfl).mp full) ?_
  intro q prime divides
  obtain ⟨factor, member, dividing⟩ := (Prime.dvd_prod_iff prime.prime).mp divides
  have prime_factor : factor.Prime :=
    (factors factor member).elim prime_of_isSmallPrime (primes factor)
  have same : q = factor := (Nat.prime_dvd_prime_iff_eq prime prime_factor).mp dividing
  rw [same]
  exact fun one => proper factor member ((witnessPower_eq_one_iff (Nat.div_le_self _ _)).mpr one)

end CertifiedNumber

/-- Whether every number of the list is certified by those before it. -/
def areCertified : List CertifiedNumber → List Nat → Bool
  | [], _ => true
  | c :: rest, known => c.isCertified known && areCertified rest (c.number :: known)

/-- Numbers certified one after the other are primes. -/
theorem prime_of_areCertified {list : List CertifiedNumber} {known : List Nat}
    (primes : ∀ q ∈ known, q.Prime) (certified : areCertified list known = true) :
    ∀ c ∈ list, c.number.Prime := by
  induction list generalizing known with
  | nil => simp
  | cons c rest ih =>
    rw [areCertified, Bool.and_eq_true] at certified
    have first := c.prime_number primes certified.1
    exact List.forall_mem_cons.mpr ⟨first,
      ih (List.forall_mem_cons.mpr ⟨first, primes⟩) certified.2⟩

def certificate : List CertifiedNumber :=
  [⟨13, [2, 5, 971, 1373]⟩,
   ⟨6, [2, 2, 2, 5, 5, 2621, 24809, 13331831]⟩,
   ⟨5, [2, 2, 2, 3, 5323, 173378833005251801]⟩,
   ⟨6, [2, 3, 22149492674086928081353]⟩,
   ⟨2, [2, 2, 101, 239]⟩,
   ⟨10, [2, 2, 3, 5, 20113]⟩,
   ⟨3, [2, 3, 1206781]⟩,
   ⟨3, [2, 2, 2, 2, 5, 5, 5, 5, 7, 29, 53]⟩,
   ⟨3, [2, 2, 2, 7, 7, 11, 1627, 2657, 4423, 41201, 96557, 7240687, 107590001]⟩,
   ⟨10, [2, 3, 5, 29, 29, 31, 7723, 132896956044521568488119,
     255515944373312847190720520512484175977]⟩,
   ⟨3, [2, 3, 7, 13441, 205115282021455665897114700593932402728804164701536103180137503955397371]⟩,
   ⟨3, [2, 3, 5, 2861]⟩,
   ⟨23, [2, 2, 2, 3, 97, 2011]⟩,
   ⟨3, [2, 2, 2, 2, 16699, 85831, 4681609]⟩,
   ⟨3, [2, 2, 2, 7, 19, 113]⟩,
   ⟨6, [2, 3, 797, 9349]⟩,
   ⟨3, [2, 2, 2, 17, 59, 4051, 120233, 44706919]⟩,
   ⟨3, [2, 2, 2, 2, 7, 2731]⟩,
   ⟨5, [2, 2, 2, 41, 59, 28181]⟩,
   ⟨3, [2, 3, 5, 29, 1871]⟩,
   ⟨2, [2, 2, 3, 3, 11, 461, 1627771]⟩,
   ⟨2, [2, 293, 305873, 545358713, 297159362677]⟩,
   ⟨2, [2, 2, 3, 3, 3, 109, 29047611873442575647497758179]⟩,
   ⟨7, [2, 2, 2, 2, 2, 2, 3, 149, 631, 107361793816595537, 174723607534414371449,
     341948486974166000522343609283189]⟩]

theorem areCertified_certificate : areCertified certificate [] = true := by decide +kernel

theorem prime_of_mem_certificate {p : Nat} (listed : p ∈ certificate.map CertifiedNumber.number) :
    p.Prime := by
  obtain ⟨c, member, rfl⟩ := List.mem_map.mp listed
  exact prime_of_areCertified (by simp) areCertified_certificate c member

theorem prime_fieldPrime : fieldPrime.Prime := prime_of_mem_certificate (by decide +kernel)

theorem prime_groupOrder : groupOrder.Prime := prime_of_mem_certificate (by decide +kernel)

instance : Fact fieldPrime.Prime := ⟨prime_fieldPrime⟩

instance : Fact groupOrder.Prime := ⟨prime_groupOrder⟩

end SigValidation.Curve
