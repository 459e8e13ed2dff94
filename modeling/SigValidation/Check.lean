import SigValidation.Ecdsa.Signature
import SigValidation.Schnorr.Signature
import SigValidation.Text.Debug
import SigValidation.Text.Quoted
/-!
# Signature checks

A check asks whether some bytes are a valid signature of a signature hash under a key. `isValid`
answers it by the cryptography alone; every other way of answering, from a cache or in a batch, is
measured against it. The fingerprint of a check names it in a cache.

A signature hash is the 32-byte digest of what a transaction input signs. An x-only key is 32 bytes
meant as the first coordinate of a point; whether they are one is seen only when the key is used.
-/
namespace SigValidation

open Text

def Bytes32.debugTree (name : String) (b : Bytes32) : DebugTree :=
  .tuple name [.text (quote b.toHex)]

/-- The digest that a signature of a transaction input commits to. -/
structure SigHash where
  bytes : Bytes32
  deriving DecidableEq

/-- Thirty-two bytes meant as a BIP-340 public key. -/
structure XOnlyKey where
  bytes : Bytes32
  deriving DecidableEq

def SigHash.debugTree (s : SigHash) : DebugTree := s.bytes.debugTree "SigHash"

/-- A signature hash is displayed in hexadecimal, at its own width whatever the format asks for. -/
def SigHash.display (_ : Format) (s : SigHash) : String := s.bytes.toHex

def XOnlyKey.debugTree (k : XOnlyKey) : DebugTree := k.bytes.debugTree "XOnlyPubKey"

/-- One question about a signature. -/
inductive Check where
  | schnorr (signature : Bytes) (key : XOnlyKey) (sighash : SigHash)
  | ecdsa (signature key : Bytes) (sighash : SigHash)
  deriving DecidableEq

/-- The name of a check in a cache. -/
structure Fingerprint where
  digest : Bytes32
  deriving DecidableEq

def Fingerprint.debugTree (f : Fingerprint) : Text.DebugTree := f.digest.debugTree "CacheEntry"

namespace Check

/-- Whether the bytes are a valid Schnorr signature. Bytes of another length are none, nor is any
under a key that is no point. -/
def isValidSchnorr (signature : Bytes) (key : XOnlyKey) (sighash : SigHash) : Bool :=
  match Schnorr.Signature.ofBytes? signature, Curve.AffinePoint.ofXOnly? key.bytes with
  | some sig, some point => Schnorr.isValid sig sighash.bytes point
  | _, _ => false

/-- Whether the bytes are a valid ECDSA signature, whichever half its second scalar lies in. -/
def isValidEcdsa (signature key : Bytes) (sighash : SigHash) : Bool :=
  match Ecdsa.Der.parse? signature, Curve.AffinePoint.ofTagged? key with
  | some sig, some point => Ecdsa.isValidLow sig.normalize sighash.bytes point
  | _, _ => false

/-- The answer of the cryptography. -/
def isValid : Check → Bool
  | schnorr signature key sighash => isValidSchnorr signature key sighash
  | ecdsa signature key sighash => isValidEcdsa signature key sighash

/-- The 32 bytes in front of a fingerprint's input: a letter for the kind of check, then zeros. -/
def domain : Check → Bytes
  | schnorr .. => 0x53 :: List.replicate 31 0
  | ecdsa .. => 0x45 :: List.replicate 31 0

/-- The input that a fingerprint digests: the kind, the signature hash, the key and the
signature. -/
def preimage (check : Check) : Bytes :=
  match check with
  | schnorr signature key sighash =>
    check.domain ++ sighash.bytes.toList ++ key.bytes.toList ++ signature
  | ecdsa signature key sighash => check.domain ++ sighash.bytes.toList ++ key ++ signature

/-- The fingerprint of a check. The same question has the same fingerprint everywhere. -/
def fingerprint (check : Check) : Fingerprint := ⟨Sha256.digest check.preimage⟩

end Check

end SigValidation
