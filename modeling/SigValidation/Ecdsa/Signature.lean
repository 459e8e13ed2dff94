import SigValidation.Curve.Point
import SigValidation.Hash.Sha256
/-!
# ECDSA signatures over secp256k1

For every valid pair `(r, s)` the pair `(r, -s)` is valid too. Verification accepts the one whose
second scalar lies in the lower half only; `normalize` takes a pair to that one.

A signature is written as a DER sequence of two integers. Reading is lax, as old signatures need:
the sequence's own length is not looked at, lengths and integers may have leading zeros, and
anything may follow the second integer. Numbers that are no scalars are read as the pair of zeros,
which is never valid.

Signing is deterministic (RFC 6979): the nonces come from a keyed-digest generator seeded with the
secret and the digest. A nonce that gives no signature is passed over, and the generator goes on to
the next one.
-/
namespace SigValidation.Ecdsa

open Curve

structure Signature where
  r : Scalar
  s : Scalar
  deriving DecidableEq

namespace Signature

/-- The signature whose second scalar lies in the lower half. -/
def normalize (sig : Signature) : Signature := if sig.s.isHigh then ⟨sig.r, -sig.s⟩ else sig

end Signature

/-- Whether the signature is valid for the digest and the key, and its second scalar lies in the
lower half. -/
def isValidLow (sig : Signature) (digest : Bytes32) (key : AffinePoint) : Bool :=
  if sig.r = 0 || sig.s = 0 || sig.s.isHigh then false
  else
    let w := sig.s.inverse
    let m := Scalar.ofDigest digest
    match (linearCombination (m * w) (sig.r * w) key.toPoint).affine? with
    | some (x, _) => Scalar.ofNat x.val == sig.r
    | none => false

namespace Der

/-- What follows a sequence's tag and length. The length in the long form is skipped, and only has
to be there. -/
def sequenceBody? : Bytes → Option Bytes
  | 0x30 :: short :: rest =>
    if short < 0x80 then some rest
    else
      let octets := short.toNat - 0x80
      if rest.length < octets then none else some (rest.drop octets)
  | _ => none

/-- A length and what follows it. In the long form, leading zeros do not count, and eight octets or
more are refused. -/
def length? : Bytes → Option (Nat × Bytes)
  | [] => none
  | short :: rest =>
    if short < 0x80 then some (short.toNat, rest)
    else
      let octets := short.toNat - 0x80
      if rest.length < octets then none
      else
        let digits := (rest.take octets).dropWhile (· == 0)
        if digits.length ≥ 8 then none else some (Bytes.toNatBE digits, rest.drop octets)

def integer? : Bytes → Option (Nat × Bytes)
  | 0x02 :: rest => do
    let (length, content) ← length? rest
    if content.length < length then none
    else some (Bytes.toNatBE (content.take length), content.drop length)
  | _ => none

/-- The signature of two numbers; both are zero if one of them is no scalar. -/
def ofNumbers (r s : Nat) : Signature :=
  match Scalar.ofNat? r, Scalar.ofNat? s with
  | some r, some s => ⟨r, s⟩
  | _, _ => ⟨0, 0⟩

/-- Reads a signature laxly. -/
def parse? (bytes : Bytes) : Option Signature := do
  let body ← sequenceBody? bytes
  let (r, rest) ← integer? body
  let (s, _) ← integer? rest
  return ofNumbers r s

/-- Without the leading zeros that the sign of a number does not need. -/
def trim : Bytes → Bytes
  | first :: second :: rest =>
    if first = 0 && second < 0x80 then trim (second :: rest) else first :: second :: rest
  | bytes => bytes

def ofScalar (a : Scalar) : Bytes :=
  let content := trim (0 :: a.toBytes.toList)
  0x02 :: UInt8.ofNat content.length :: content

/-- Writes a signature, with no byte to spare. -/
def write (sig : Signature) : Bytes :=
  let body := ofScalar sig.r ++ ofScalar sig.s
  0x30 :: UInt8.ofNat body.length :: body

end Der

/-- The state of the nonce generator. -/
structure NonceGenerator where
  key : Bytes32
  value : Bytes32

namespace NonceGenerator

/-- One mixing step: a new key from the old one, a marker and more input, then a new value. -/
def mix (g : NonceGenerator) (marker : UInt8) (input : Bytes) : NonceGenerator :=
  let key := Sha256.keyed g.key.toList (g.value.toList ++ marker :: input)
  ⟨key, Sha256.keyed key.toList g.value.toList⟩

/-- The generator for a secret and a digest. -/
def seeded (secret : Scalar) (digest : Bytes32) : NonceGenerator :=
  let input := secret.toBytes.toList ++ (Scalar.ofDigest digest).toBytes.toList
  let start : NonceGenerator := ⟨Bytes32.replicate 0, Bytes32.replicate 1⟩
  (start.mix 0 input).mix 1 input

/-- The next 32 bytes, and the generator after them. -/
def next (g : NonceGenerator) : Bytes32 × NonceGenerator :=
  let value := Sha256.keyed g.key.toList g.value.toList
  (value, ⟨g.key, value⟩)

end NonceGenerator

/-- The signature with a given nonce, if the nonce gives one, with the second scalar in the lower
half. -/
def signWith? (secret : Scalar) (digest : Bytes32) (k : Scalar) : Option Signature := do
  let (x, _) ← k.timesGenerator.affine?
  let r := Scalar.ofNat x.val
  let s := k.inverse * (Scalar.ofDigest digest + r * secret)
  if r = 0 || s = 0 then none else some (Signature.normalize ⟨r, s⟩)

/-- The signature with the first nonce that gives one, among the given number of them. -/
def signFrom? (secret : Scalar) (digest : Bytes32) : Nat → NonceGenerator → Option Signature
  | 0, _ => none
  | attempts + 1, g =>
    let (bytes, g) := g.next
    match (Scalar.ofNat? bytes.toNat).bind (signWith? secret digest) with
    | some sig => some sig
    | none => signFrom? secret digest attempts (g.mix 0 [])

/-- The most nonces tried. Fewer than one in `2 ^ 127` gives no signature. -/
def maxAttempts : Nat := 64

def sign? (secret : Scalar) (digest : Bytes32) : Option Signature :=
  signFrom? secret digest maxAttempts (NonceGenerator.seeded secret digest)

end SigValidation.Ecdsa
