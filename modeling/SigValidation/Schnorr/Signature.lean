import SigValidation.Hash.Sha256
import SigValidation.Curve.Point
/-!
# Schnorr signatures over secp256k1 (BIP-340)

A signature is 64 bytes: the first coordinate of the nonce point, then a scalar. It is valid for a
message and a key if `s·G - e·P` is the nonce point, where `e` is the digest of all three under the
challenge tag.
-/
namespace SigValidation.Schnorr

open Curve

def signatureSize : Nat := 64

/-- Sixty-four bytes meant as a signature. -/
structure Signature where
  bytes : Bytes
  length_bytes : bytes.length = signatureSize
  deriving DecidableEq

namespace Signature

def ofBytes? (bytes : Bytes) : Option Signature :=
  if h : bytes.length = signatureSize then some ⟨bytes, h⟩ else none

/-- The two halves of a signature, put together. -/
def ofHalves (nonce response : Bytes32) : Signature where
  bytes := nonce.toList ++ response.toList
  length_bytes := by simp [nonce.length_toList, response.length_toList, signatureSize]

/-- The bytes of the nonce point's first coordinate. -/
def nonceBytes (s : Signature) : Bytes32 where
  toList := s.bytes.take 32
  length_toList := by simp [s.length_bytes, signatureSize]

def responseBytes (s : Signature) : Bytes32 where
  toList := s.bytes.drop 32
  length_toList := by simp [s.length_bytes, signatureSize]

end Signature

def challenge (nonce key message : Bytes32) : Scalar :=
  Scalar.ofDigest (Sha256.tagged "BIP0340/challenge" (nonce.toList ++ key.toList ++ message.toList))

/-- Whether the signature is valid for the message and the key. -/
def isValid (signature : Signature) (message : Bytes32) (key : AffinePoint) : Bool :=
  match Coordinate.ofBytes? signature.nonceBytes, Scalar.ofNat? signature.responseBytes.toNat with
  | some nonce, some response =>
    let e := challenge signature.nonceBytes key.toXOnly message
    match (linearCombination response (-e) key.toPoint).affine? with
    | some (x, y) => x == nonce && !y.isOdd
    | none => false
  | _, _ => false

/-- The scalar, or its negative, whose point has an even second coordinate, with that point. -/
def evenMultiple? (k : Scalar) : Option (Scalar × AffinePoint) := do
  let p ← k.timesGenerator.toAffine?
  return if p.y.isOdd then (-k, p.negate) else (k, p)

/-- The secret nonce for a key and a message, without fresh randomness: the secret is masked by the
digest of 32 zero bytes under the auxiliary tag. -/
def nonce (secret : Scalar) (key message : Bytes32) : Scalar :=
  let mask := Sha256.tagged "BIP0340/aux" (Bytes32.replicate 0).toList
  let masked := List.zipWith (· ^^^ ·) secret.toBytes.toList mask.toList
  Scalar.ofDigest (Sha256.tagged "BIP0340/nonce" (masked ++ key.toList ++ message.toList))

/-- The signature of a message under a secret. There is none for the secret zero, nor if the nonce
comes out zero. -/
def sign? (secret : Scalar) (message : Bytes32) : Option Signature := do
  let (d, key) ← evenMultiple? secret
  let (k, point) ← evenMultiple? (nonce d key.toXOnly message)
  let e := challenge point.toXOnly key.toXOnly message
  return Signature.ofHalves point.toXOnly (k + e * d).toBytes

end SigValidation.Schnorr
