import SigValidation.Check
/-!
# Signatures to test with

Secrets and signature hashes are made from a small number, the seed, so every signature can be made
again. A broken one signs a signature hash with one bit flipped.
-/
namespace SigValidation

namespace TestVector

open Curve

/-- The secret of a seed: the byte `0x11` 28 times, then the seed. -/
def secretBytes (seed : UInt32) : Bytes32 where
  toList := List.replicate 28 0x11 ++ Bytes.ofNatBE 4 seed.toNat
  length_toList := by simp

def secret? (seed : UInt32) : Option Scalar := Scalar.ofNat? (secretBytes seed).toNat

/-- The signature hash of a seed: the seed, then the byte `0x5a` 28 times. -/
def sighashOf (seed : UInt32) : SigHash where
  bytes := {
    toList := Bytes.ofNatBE 4 seed.toNat ++ List.replicate 28 0x5a
    length_toList := by simp }

/-- The bytes with some bits of one of them flipped. -/
def flip (position : Nat) (bits : UInt8) (b : Bytes32) : Bytes32 where
  toList := b.toList.modify position (· ^^^ bits)
  length_toList := by simp [b.length_toList]

end TestVector

/-- A Schnorr signature with its key and the signature hash it claims to sign. -/
structure SchnorrVector where
  signature : Bytes
  key : XOnlyKey
  sighash : SigHash
  deriving DecidableEq

/-- An ECDSA signature with its key and the signature hash it claims to sign. -/
structure EcdsaVector where
  signature : Bytes
  key : Bytes
  sighash : SigHash
  deriving DecidableEq

/-- A key that is no point: its number is above the field's order. -/
def TestVector.malformedKey : XOnlyKey := ⟨Bytes32.replicate 0xff⟩

/-- How many vectors of each kind the fixed lists hold. -/
def TestVector.listSize : Nat := 16

namespace SchnorrVector

open TestVector

/-- The vector of a seed whose signature signs the given bytes. -/
def signing? (seed : UInt32) (signed : Bytes32) : Option SchnorrVector := do
  let secret ← secret? seed
  let signature ← Schnorr.sign? secret signed
  let point ← secret.timesGenerator.toAffine?
  return ⟨signature.bytes, ⟨point.toXOnly⟩, sighashOf seed⟩

def valid? (seed : UInt32) : Option SchnorrVector := signing? seed (sighashOf seed).bytes

/-- A well-formed signature of another signature hash: the last byte differs. -/
def invalid? (seed : UInt32) : Option SchnorrVector :=
  signing? seed (flip 31 0x01 (sighashOf seed).bytes)

end SchnorrVector

/-- The vectors of the first seeds, each under another key and of another signature hash. -/
def TestVector.firstSeeds {α : Type} (make : UInt32 → Option α) : List α :=
  (List.range listSize).filterMap fun seed => make (UInt32.ofNat seed)

namespace EcdsaVector

open TestVector

/-- The vector of a seed whose signature signs the given bytes. -/
def signing? (seed : UInt32) (signed : Bytes32) : Option EcdsaVector := do
  let secret ← secret? seed
  let signature ← Ecdsa.sign? secret signed
  let point ← secret.timesGenerator.toAffine?
  return ⟨Ecdsa.Der.write signature, point.toCompressed, sighashOf seed⟩

def valid? (seed : UInt32) : Option EcdsaVector := signing? seed (sighashOf seed).bytes

/-- A well-formed signature of another signature hash: the first byte differs. -/
def invalid? (seed : UInt32) : Option EcdsaVector :=
  signing? seed (flip 0 0x80 (sighashOf seed).bytes)

end EcdsaVector

end SigValidation
