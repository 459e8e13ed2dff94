import Mathlib.Data.List.Nodup
import SigValidation.Check
/-!
# What a fingerprint tells of a check

The input of a fingerprint begins with parts of fixed length, the kind and the signature hash, and
ends with the bytes of key and signature, one right behind the other. So it gives back the kind, the
signature hash and those bytes together, and nothing more (`Check.preimage_eq_iff`). The key of a
Schnorr check has a fixed length too, and the input of its fingerprint therefore gives the whole
check back. Among checks whose fingerprints collide only where their inputs are the same, a Schnorr
fingerprint then names one check.
-/
namespace SigValidation

namespace Check

def isSchnorr : Check → Bool
  | schnorr .. => true
  | ecdsa .. => false

/-- What the signature is meant to sign. -/
def sighash : Check → SigHash
  | schnorr _ _ sighash => sighash
  | ecdsa _ _ sighash => sighash

/-- The key as the fingerprint's input has it. -/
def keyBytes : Check → Bytes
  | schnorr _ key _ => key.bytes.toList
  | ecdsa _ key _ => key

def signature : Check → Bytes
  | schnorr signature _ _ => signature
  | ecdsa signature _ _ => signature

theorem length_keyBytes {check : Check} (kind : check.isSchnorr = true) :
    check.keyBytes.length = 32 := by
  cases check with
  | schnorr signature key sighash => exact key.bytes.length_toList
  | ecdsa => cases kind

/-- A check is its kind and its three parts. -/
theorem eq_of_parts {check other : Check} (kinds : check.isSchnorr = other.isSchnorr)
    (sighashes : check.sighash = other.sighash) (keys : check.keyBytes = other.keyBytes)
    (signatures : check.signature = other.signature) : check = other := by
  cases check with
  | schnorr signature key sighash =>
    cases other with
    | schnorr signature' key' sighash' =>
      have key_eq : key = key' := congrArg XOnlyKey.mk (Bytes32.toList_injective keys)
      cases key_eq
      cases sighashes
      cases signatures
      rfl
    | ecdsa => cases kinds
  | ecdsa signature key sighash =>
    cases other with
    | schnorr => cases kinds
    | ecdsa signature' key' sighash' =>
      cases sighashes
      cases keys
      cases signatures
      rfl

theorem length_domain (check : Check) : check.domain.length = 32 := by
  cases check <;> rfl

/-- The domain tells the two kinds apart and nothing else. -/
theorem domain_eq_iff {check other : Check} :
    check.domain = other.domain ↔ check.isSchnorr = other.isSchnorr := by
  cases check <;> cases other <;> simp [domain, isSchnorr]

/-- All inputs have one shape, whichever kind of check they are made for. -/
theorem preimage_eq (check : Check) : check.preimage =
    check.domain ++ check.sighash.bytes.toList ++ (check.keyBytes ++ check.signature) := by
  cases check <;> exact List.append_assoc _ _ _

/-- The input of a fingerprint gives back the kind, the signature hash, and the bytes of key and
signature together, for in every input 64 bytes stand before these. -/
theorem preimage_eq_iff {check other : Check} : check.preimage = other.preimage ↔
    check.isSchnorr = other.isSchnorr ∧ check.sighash = other.sighash ∧
      check.keyBytes ++ check.signature = other.keyBytes ++ other.signature := by
  rw [preimage_eq, preimage_eq]
  constructor
  · intro same
    obtain ⟨fronts, bytes⟩ := List.append_inj same (by
      rw [List.length_append, List.length_append, length_domain, length_domain,
        check.sighash.bytes.length_toList, other.sighash.bytes.length_toList])
    obtain ⟨domains, sighashes⟩ := List.append_inj fronts (by rw [length_domain, length_domain])
    exact ⟨domain_eq_iff.mp domains, congrArg SigHash.mk (Bytes32.toList_injective sighashes),
      bytes⟩
  · rintro ⟨kinds, sighashes, bytes⟩
    rw [domain_eq_iff.mpr kinds, sighashes, bytes]

theorem isSchnorr_eq_of_preimage_eq {check other : Check} (same : check.preimage = other.preimage) :
    check.isSchnorr = other.isSchnorr := (preimage_eq_iff.mp same).1

/-- The input of a Schnorr fingerprint is the input of no other check: all keys of this kind are 32
bytes long, so that two inputs are cut at one place. -/
theorem eq_of_preimage_eq {check other : Check} (kind : check.isSchnorr = true)
    (same : check.preimage = other.preimage) : check = other := by
  obtain ⟨kinds, sighashes, bytes⟩ := preimage_eq_iff.mp same
  obtain ⟨keys, signatures⟩ := List.append_inj bytes (by
    rw [length_keyBytes kind, length_keyBytes (kinds.symm.trans kind)])
  exact eq_of_parts kinds sighashes keys signatures

end Check

/-- Among the checks, different fingerprint inputs have different digests. -/
def Collisionless (checks : List Check) : Prop :=
  ∀ a ∈ checks, ∀ b ∈ checks, a.fingerprint = b.fingerprint → a.preimage = b.preimage

namespace Collisionless

/-- Among checks that do not collide, a Schnorr fingerprint names one check. -/
theorem eq_of_fingerprint_eq {checks : List Check} (collisionless : Collisionless checks)
    {check other : Check} (member : check ∈ checks) (member' : other ∈ checks)
    (kind : check.isSchnorr = true) (same : check.fingerprint = other.fingerprint) :
    check = other :=
  Check.eq_of_preimage_eq kind (collisionless check member other member' same)

theorem mono {checks others : List Check} (collisionless : Collisionless others)
    (fewer : checks ⊆ others) : Collisionless checks :=
  fun a ha b hb => collisionless a (fewer ha) b (fewer hb)

/-- Checks whose fingerprints are all different do not collide. -/
theorem of_nodup {checks : List Check} (different : (checks.map Check.fingerprint).Nodup) :
    Collisionless checks :=
  fun _ ha _ hb same => congrArg Check.preimage (List.inj_on_of_nodup_map different ha hb same)

/-- One check, however often it is asked, collides with nothing. -/
theorem replicate (n : Nat) (check : Check) : Collisionless (List.replicate n check) := by
  intro a ha b hb _
  rw [List.eq_of_mem_replicate ha, List.eq_of_mem_replicate hb]

end Collisionless

end SigValidation
