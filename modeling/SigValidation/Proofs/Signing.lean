import SigValidation.Proofs.Curve.Keys
import SigValidation.Proofs.Ecdsa.Malleability
/-!
# Signatures that are made are valid

Schnorr: The signer takes secret and nonce, or their negatives, so that both points have even second
coordinates. Then `s·G - e·P` is the nonce point, for the secret times the challenge is added on one
side and taken off on the other.

ECDSA: The second scalar of a signature is the digest plus the secret's share, divided by the nonce.
A verifier divides by that scalar in turn and arrives at the nonce again, or at its negative where
the scalar was negated into the lower half: both multiples have one first coordinate. Which nonce of
the generator gave the signature does not matter, nor how many were passed over.
-/
namespace SigValidation

open Curve

namespace Schnorr

theorem Signature.nonceBytes_ofHalves (nonce response : Bytes32) :
    (ofHalves nonce response).nonceBytes = nonce :=
  Bytes32.toList_injective (List.take_left' nonce.length_toList)

theorem Signature.responseBytes_ofHalves (nonce response : Bytes32) :
    (ofHalves nonce response).responseBytes = response :=
  Bytes32.toList_injective (List.drop_left' nonce.length_toList)

/-- Scalar and point belong together, and the second coordinate of the point is even. -/
structure EvenMultiple (k : Scalar) (point : AffinePoint) : Prop where
  element : scaled (residue k) = point.element
  even : point.y.isOdd = false

/-- What is found for a scalar is the point of the two over the multiple's first coordinate whose
second coordinate is even. -/
theorem evenMultiple?_eq_some {k d : Scalar} {point : AffinePoint}
    (found : evenMultiple? k = some (d, point)) :
    EvenMultiple d point ∧ k.timesGenerator.toAffine?.map AffinePoint.even = some point := by
  obtain ⟨multiple, affine, taken⟩ := Option.bind_eq_some_iff.mp found
  have element := (represents_timesGenerator k).eq_element affine
  have point_eq : point = multiple.even := by
    rw [AffinePoint.even]
    split at taken <;> cases taken <;> simp_all
  refine ⟨⟨?_, ?_⟩, ?_⟩
  · by_cases odd : multiple.y.isOdd = true
    · rw [if_pos odd] at taken
      cases taken
      rw [residue_neg, map_neg, element, AffinePoint.element_negate]
    · rw [if_neg odd] at taken
      cases taken
      exact element
  · rw [point_eq, AffinePoint.isOdd_even]
  · rw [affine, Option.map_some, point_eq]

/-- A signature over a nonce point and a key that both belong to their scalars is valid. -/
theorem isValid_ofHalves {k d : Scalar} {point key : AffinePoint} (nonce : EvenMultiple k point)
    (secret : EvenMultiple d key) (message : Bytes32) :
    let e := challenge point.toXOnly key.toXOnly message
    isValid (Signature.ofHalves point.toXOnly (k + e * d).toBytes) message key = true := by
  intro e
  have key_represents : key.toPoint.Represents (scaled (residue d)) := by
    rw [secret.element]
    exact key.represents_toPoint
  have combined := represents_linearCombination key_represents (k + e * d) (-e)
  have cancelled : residue (k + e * d) + residue (-e) * residue d = residue k := by
    rw [residue_add, residue_mul, residue_neg]
    ring
  rw [cancelled, nonce.element] at combined
  have coordinates := combined.affine?_eq_some_iff.mpr rfl
  have response : Scalar.ofNat? (k + e * d).toBytes.toNat = some (k + e * d) := by
    rw [Scalar.toBytes, Bytes32.toNat_ofNat (val_lt_two_pow _), Scalar.ofNat?,
      dif_pos (k + e * d).isLt]
  rw [isValid, Signature.nonceBytes_ofHalves, Signature.responseBytes_ofHalves, AffinePoint.toXOnly,
    Coordinate.ofBytes?_toBytes, response]
  dsimp only
  rw [← AffinePoint.toXOnly, coordinates]
  simp [nonce.even]

/-- Every signature that is made is valid under the key of the secret. -/
theorem isValid_of_sign? {secret : Scalar} {message : Bytes32} {signature : Signature}
    {point : AffinePoint} (signed : sign? secret message = some signature)
    (key : secret.timesGenerator.toAffine? = some point) :
    isValid signature message point.even = true := by
  obtain ⟨⟨d, own_key⟩, own, signed⟩ := Option.bind_eq_some_iff.mp signed
  obtain ⟨⟨k, nonce_point⟩, nonce, signed⟩ := Option.bind_eq_some_iff.mp signed
  obtain ⟨own_multiple, own_even⟩ := evenMultiple?_eq_some own
  rw [key, Option.map_some] at own_even
  cases own_even
  cases signed
  exact isValid_ofHalves (evenMultiple?_eq_some nonce).1 own_multiple message

end Schnorr

namespace Curve.Scalar

theorem residue_inverse (a : Scalar) : residue a.inverse = (residue a)⁻¹ :=
  residue_power_sub_two (by decide) a (by decide)

/-- The negative of a scalar in the upper half lies in the lower one. -/
theorem isHigh_neg {a : Scalar} (high : a.isHigh = true) : (-a).isHigh = false := by
  have above : groupOrder / 2 < a.val := of_decide_eq_true high
  have below := a.isLt
  have odd : groupOrder % 2 = 1 := by decide
  have opposite_below : groupOrder - a.val < groupOrder := by omega
  rw [neg_mk a.isLt opposite_below, isHigh_mk]
  exact decide_eq_false (by omega)

end Curve.Scalar

namespace Ecdsa

/-- The second scalar is that of the nonce equation, or its negative; it lies in the lower half. -/
structure Normalized (sig : Signature) (r s : Scalar) : Prop where
  first : sig.r = r
  second : sig.s = s ∨ sig.s = -s
  low : sig.s.isHigh = false

/-- Normalizing takes the second scalar or its negative, whichever is low. -/
theorem normalized_normalize (r s : Scalar) : Normalized (Signature.normalize ⟨r, s⟩) r s := by
  by_cases high : s.isHigh = true
  · rw [Signature.normalize, if_pos high]
    exact ⟨rfl, Or.inr rfl, Scalar.isHigh_neg high⟩
  · rw [Signature.normalize, if_neg high]
    exact ⟨rfl, Or.inl rfl, Bool.eq_false_iff.mpr high⟩

theorem normalize_of_low {sig : Signature} (low : sig.s.isHigh = false) : sig.normalize = sig := by
  rw [Signature.normalize, low]
  rfl

/-- What a verifier multiplies the generator by is the nonce, or its negative. -/
theorem verifier_scalar {secret k m r s s' : ZMod groupOrder} (k_nonzero : k ≠ 0)
    (s_nonzero : s ≠ 0) (equation : s = k⁻¹ * (m + r * secret)) (normalized : s' = s ∨ s' = -s) :
    m * s'⁻¹ + r * s'⁻¹ * secret = k ∨ m * s'⁻¹ + r * s'⁻¹ * secret = -k := by
  have product : m + r * secret = k * s := by
    rw [equation, mul_inv_cancel_left₀ k_nonzero]
  have gathered : m * s'⁻¹ + r * s'⁻¹ * secret = (m + r * secret) * s'⁻¹ := by ring
  rw [gathered, product]
  rcases normalized with rfl | rfl
  · exact Or.inl (mul_inv_cancel_right₀ s_nonzero k)
  · rw [inv_neg, mul_neg]
    exact Or.inr (congrArg Neg.neg (mul_inv_cancel_right₀ s_nonzero k))

/-- Validity asks for the first coordinate of the combination alone. -/
theorem isValidLow_of_first {sig : Signature} {digest : Bytes32} {key : AffinePoint}
    {x : Coordinate} (r_nonzero : sig.r ≠ 0) (s_nonzero : sig.s ≠ 0) (low : sig.s.isHigh = false)
    (first : Scalar.ofNat x.val = sig.r)
    (found : (linearCombination (Scalar.ofDigest digest * sig.s.inverse)
      (sig.r * sig.s.inverse) key.toPoint).affine?.map Prod.fst = some x) :
    isValidLow sig digest key = true := by
  obtain ⟨⟨x', y⟩, affine, rfl⟩ := Option.map_eq_some_iff.mp found
  simp only [isValidLow, affine]
  simp [r_nonzero, s_nonzero, low, first]

/-- A signature made with any nonce is valid under the key of the secret. -/
theorem isValidLow_of_signWith? {secret k : Scalar} {digest : Bytes32} {sig : Signature}
    {key : AffinePoint} (signed : signWith? secret digest k = some sig)
    (own : secret.timesGenerator.toAffine? = some key) :
    sig.s.isHigh = false ∧ isValidLow sig digest key = true := by
  obtain ⟨⟨x, y⟩, nonce, signed⟩ := Option.bind_eq_some_iff.mp signed
  dsimp only at signed
  generalize s_eq : k.inverse * (Scalar.ofDigest digest + Scalar.ofNat x.val * secret) = s at signed
  split at signed
  · cases signed
  rename_i usable
  have r_nonzero : Scalar.ofNat x.val ≠ 0 := fun zero => usable (by simp [zero])
  have s_nonzero : s ≠ 0 := fun zero => usable (by simp [zero])
  have normalized := normalized_normalize (Scalar.ofNat x.val) s
  rw [Option.some.inj signed] at normalized
  have combined :=
    represents_linearCombination (represents_key own) (Scalar.ofDigest digest * sig.s.inverse)
    (sig.r * sig.s.inverse)
  rw [residue_mul, residue_mul, Scalar.residue_inverse, normalized.first] at combined
  have multiplier := verifier_scalar (residue_ne_zero_of_affine? nonce)
    (fun zero => s_nonzero (residue_eq_zero_iff.mp zero))
    (by rw [← s_eq, residue_mul, Scalar.residue_inverse, residue_add, residue_mul])
    (normalized.second.imp (congrArg residue) fun opposite => by rw [opposite, residue_neg])
  have first := (represents_timesGenerator k).map_fst_affine?_eq combined
    (multiplier.imp (congrArg scaled) fun opposite => by rw [opposite, map_neg])
  rw [nonce, Option.map_some, ← normalized.first] at first
  have s_nonzero' : sig.s ≠ 0 := by
    rcases normalized.second with same | opposite
    · rwa [same]
    · rwa [opposite, neg_ne_zero]
  refine ⟨normalized.low,
    isValidLow_of_first ?_ s_nonzero' normalized.low normalized.first.symm first⟩
  rwa [normalized.first]

/-- So is the first signature that some nonce of the generator gives. -/
theorem isValidLow_of_signFrom? {secret : Scalar} {digest : Bytes32} {sig : Signature}
    {key : AffinePoint} (own : secret.timesGenerator.toAffine? = some key) {attempts : Nat}
    {g : NonceGenerator} (signed : signFrom? secret digest attempts g = some sig) :
    sig.s.isHigh = false ∧ isValidLow sig digest key = true := by
  induction attempts generalizing g with
  | zero => cases signed
  | succ attempts ih =>
    rw [signFrom?] at signed
    dsimp only at signed
    split at signed
    · rename_i this_one
      cases signed
      obtain ⟨k, _, this_one⟩ := Option.bind_eq_some_iff.mp this_one
      exact isValidLow_of_signWith? this_one own
    · exact ih signed

end Ecdsa

end SigValidation
