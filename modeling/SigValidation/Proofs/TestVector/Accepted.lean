import SigValidation.Proofs.Signing
import SigValidation.TestVector
/-!
# Valid vectors are accepted

The secret of a seed is a number in the right range, whatever the seed. The vectors signed with it
come as bytes, and the base checker reads signature and key from these bytes and accepts them.
-/
namespace SigValidation

open Curve

namespace TestVector

/-- The bytes in front of the seed keep the number away from zero and from the group's order. -/
theorem toNat_secretBytes (seed : UInt32) :
    0 < (secretBytes seed).toNat ∧ (secretBytes seed).toNat < groupOrder := by
  have low := seed.toNat_lt
  have parts : (secretBytes seed).toNat = Bytes.toNatBE (List.replicate 28 0x11) *
    256 ^ 4 + seed.toNat := by
    rw [Bytes32.toNat, secretBytes, Bytes.toNatBE_append, Bytes.length_ofNatBE,
      Bytes.toNatBE_ofNatBE, Nat.mod_eq_of_lt (Nat.lt_of_lt_of_le low (by decide))]
  have front : 0 < Bytes.toNatBE (List.replicate 28 0x11) * 256 ^ 4 ∧
      Bytes.toNatBE (List.replicate 28 0x11) * 256 ^ 4 + 2 ^ 32 ≤ groupOrder := by decide +kernel
  rw [parts]
  generalize Bytes.toNatBE (List.replicate 28 0x11) * 256 ^ 4 = high at front
  exact ⟨Nat.add_pos_left front.1 _, Nat.lt_of_lt_of_le (Nat.add_lt_add_left low high) front.2⟩

/-- Every seed has a secret, and it is not zero. -/
theorem exists_secret? (seed : UInt32) : ∃ secret, secret? seed = some secret ∧ secret ≠ 0 := by
  obtain ⟨positive, below⟩ := toNat_secretBytes seed
  have found : secret? seed = some ⟨_, below⟩ := by rw [secret?, Scalar.ofNat?, dif_pos below]
  exact ⟨_, found, Fin.ne_of_val_ne (Nat.ne_of_gt positive)⟩

end TestVector

open TestVector

theorem SchnorrVector.sighash_of_signing? {seed : UInt32} {signed : Bytes32} {v : SchnorrVector}
    (made : signing? seed signed = some v) : v.sighash = sighashOf seed := by
  unfold signing? at made
  obtain ⟨secret, _, made⟩ := Option.bind_eq_some_iff.mp made
  obtain ⟨signature, _, made⟩ := Option.bind_eq_some_iff.mp made
  obtain ⟨point, _, made⟩ := Option.bind_eq_some_iff.mp made
  cases made
  rfl

/-- What is signed for a seed is a valid signature of the signed bytes, under the key that comes
with it. -/
theorem SchnorrVector.isValid_of_signing? {seed : UInt32} {signed : Bytes32} {v : SchnorrVector}
    (made : signing? seed signed = some v) :
    Check.isValid (.schnorr v.signature v.key ⟨signed⟩) = true := by
  unfold signing? at made
  obtain ⟨secret, _, made⟩ := Option.bind_eq_some_iff.mp made
  obtain ⟨signature, signature_made, made⟩ := Option.bind_eq_some_iff.mp made
  obtain ⟨point, own, made⟩ := Option.bind_eq_some_iff.mp made
  cases made
  have read : Schnorr.Signature.ofBytes? signature.bytes = some signature :=
    dif_pos signature.length_bytes
  simp only [Check.isValid, Check.isValidSchnorr, read, AffinePoint.ofXOnly?_toXOnly]
  exact Schnorr.isValid_of_sign? signature_made own

namespace EcdsaVector

/-- The valid vector of a seed, from a signer that starts its nonces in the given way and tries a
given number of them. -/
def validFrom? (seeded : Scalar → Bytes32 → Ecdsa.NonceGenerator) (attempts : Nat) (seed : UInt32) :
    Option EcdsaVector := do
  let secret ← secret? seed
  let digest := (sighashOf seed).bytes
  let signature ← Ecdsa.signFrom? secret digest attempts (seeded secret digest)
  let point ← secret.timesGenerator.toAffine?
  return ⟨Ecdsa.Der.write signature, point.toCompressed, sighashOf seed⟩

theorem valid?_eq_validFrom? (seed : UInt32) :
    valid? seed = validFrom? Ecdsa.NonceGenerator.seeded Ecdsa.maxAttempts seed := rfl

theorem isValid_of_validFrom? {seeded : Scalar → Bytes32 → Ecdsa.NonceGenerator} {attempts : Nat}
    {seed : UInt32} {v : EcdsaVector} (made : validFrom? seeded attempts seed = some v) :
    Check.isValid (.ecdsa v.signature v.key v.sighash) = true := by
  unfold validFrom? at made
  obtain ⟨secret, _, made⟩ := Option.bind_eq_some_iff.mp made
  obtain ⟨signature, signature_made, made⟩ := Option.bind_eq_some_iff.mp made
  obtain ⟨point, own, made⟩ := Option.bind_eq_some_iff.mp made
  cases made
  obtain ⟨low, valid⟩ := Ecdsa.isValidLow_of_signFrom? own signature_made
  have read : Ecdsa.Der.parse? (Ecdsa.Der.write signature) = some signature := by
    rw [← List.append_nil (Ecdsa.Der.write signature)]
    exact Ecdsa.Der.parse?_write_append signature []
  change Check.isValidEcdsa (Ecdsa.Der.write signature) point.toCompressed (sighashOf seed) = true
  rw [Check.isValidEcdsa_of_parse? read, AffinePoint.ofTagged?_toCompressed,
    Ecdsa.normalize_of_low low]
  exact valid

end EcdsaVector

namespace BaseChecker

/-- For every seed: the secret is there and is not zero, and the base checker accepts the valid
Schnorr vector and the valid ECDSA vector if the signer makes them, wherever the nonces of the
latter start and however many are tried. -/
theorem check_valid_vectors (base : BaseChecker) (seed : UInt32) :
    (∃ secret, secret? seed = some secret ∧ secret ≠ 0) ∧
      (∀ v, SchnorrVector.valid? seed = some v →
        base.check (.schnorr v.signature v.key v.sighash) = true) ∧
      (∀ v, EcdsaVector.valid? seed = some v →
        base.check (.ecdsa v.signature v.key v.sighash) = true) ∧
      ∀ seeded attempts v, EcdsaVector.validFrom? seeded attempts seed = some v →
        base.check (.ecdsa v.signature v.key v.sighash) = true := by
  refine ⟨exists_secret? seed, ?_, ?_, ?_⟩
  · intro v made
    rw [SchnorrVector.sighash_of_signing? made]
    exact SchnorrVector.isValid_of_signing? made
  · intro v made
    rw [EcdsaVector.valid?_eq_validFrom?] at made
    exact EcdsaVector.isValid_of_validFrom? made
  · intro seeded attempts v made
    exact EcdsaVector.isValid_of_validFrom? made

/-- Both vectors of the seed two are made, and both are accepted. -/
theorem check_valid_vectors_two :
    let base : BaseChecker := ⟨"", 0, ⟨0, Nat.zero_le _⟩, {}⟩
    ∃ v w, SchnorrVector.valid? 2 = some v ∧ EcdsaVector.valid? 2 = some w ∧
      base.check (.schnorr v.signature v.key v.sighash) = true ∧
      base.check (.ecdsa w.signature w.key w.sighash) = true := by
  intro base
  obtain ⟨v, schnorr⟩ :=
    Option.isSome_iff_exists.mp (by decide +kernel : (SchnorrVector.valid? 2).isSome = true)
  obtain ⟨w, ecdsa⟩ :=
    Option.isSome_iff_exists.mp (by decide +kernel : (EcdsaVector.valid? 2).isSome = true)
  obtain ⟨-, accepts, accepts_ecdsa, -⟩ := check_valid_vectors base 2
  exact ⟨v, w, schnorr, ecdsa, accepts v schnorr, accepts_ecdsa w ecdsa⟩

end BaseChecker

end SigValidation
