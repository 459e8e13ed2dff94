import SigValidation.Backend.Context
import SigValidation.Proofs.Check.Preimage
/-!
# Checks and the items of a batch

A Schnorr check whose signature has 64 bytes and whose key is a point is read into one item of a
batch; no other check is. Reading loses nothing: the item gives the check back, and both have one
verdict.
-/
namespace SigValidation

open Curve

namespace Curve

/-- A coordinate is written back into the bytes it was read from. -/
theorem Coordinate.toBytes_of_ofBytes? {b : Bytes32} {x : Coordinate}
    (h : Coordinate.ofBytes? b = some x) : x.toBytes = b := by
  unfold Coordinate.ofBytes? Coordinate.ofNat? at h
  split at h
  · cases h
    exact Bytes32.ofNat_toNat b
  · cases h

theorem AffinePoint.x_of_ofCoordinates? {x y : Coordinate} {p : AffinePoint}
    (h : AffinePoint.ofCoordinates? x y = some p) : p.x = x := by
  unfold AffinePoint.ofCoordinates? at h
  split at h
  · cases h
    rfl
  · cases h

theorem AffinePoint.x_of_ofX? {x : Coordinate} {odd : Bool} {p : AffinePoint}
    (h : AffinePoint.ofX? x odd = some p) : p.x = x := by
  unfold AffinePoint.ofX? at h
  obtain ⟨y, _, h⟩ := Option.bind_eq_some_iff.mp h
  exact AffinePoint.x_of_ofCoordinates? h

/-- An x-only key is written back into the bytes it was read from. -/
theorem AffinePoint.toXOnly_of_ofXOnly? {b : Bytes32} {p : AffinePoint}
    (h : AffinePoint.ofXOnly? b = some p) : p.toXOnly = b := by
  obtain ⟨x, read, h⟩ := Option.bind_eq_some_iff.mp h
  rw [AffinePoint.toXOnly, AffinePoint.x_of_ofX? h]
  exact Coordinate.toBytes_of_ofBytes? read

end Curve

theorem Schnorr.Signature.bytes_of_ofBytes? {bytes : Bytes} {signature : Schnorr.Signature}
    (h : Schnorr.Signature.ofBytes? bytes = some signature) : signature.bytes = bytes := by
  unfold Schnorr.Signature.ofBytes? at h
  split at h
  · cases h
    rfl
  · cases h

/-- The check an item stands for. -/
def BatchItem.question (item : BatchItem) : Check :=
  .schnorr item.signature.bytes ⟨item.key.toXOnly⟩ item.sighash

namespace Check

/-- The item a batch holds for a check, if it takes the check at all. -/
def item? : Check → Option BatchItem
  | schnorr signature key sighash => do
    let parsed ← Schnorr.Signature.ofBytes? signature
    let point ← AffinePoint.ofXOnly? key.bytes
    return ⟨parsed, sighash, point⟩
  | ecdsa .. => none

theorem item?_eq_some {signature : Bytes} {key : XOnlyKey} {sighash : SigHash}
    {parsed : Schnorr.Signature} {point : AffinePoint}
    (hs : Schnorr.Signature.ofBytes? signature = some parsed)
    (hk : AffinePoint.ofXOnly? key.bytes = some point) :
    (schnorr signature key sighash).item? = some ⟨parsed, sighash, point⟩ := by
  simp [item?, hs, hk]

theorem item?_eq_none_of_signature {signature : Bytes} {key : XOnlyKey} {sighash : SigHash}
    (hs : Schnorr.Signature.ofBytes? signature = none) :
    (schnorr signature key sighash).item? = none := by
  simp [item?, hs]

/-- No batch takes a check whose key is no point. -/
theorem item?_eq_none_of_key {signature : Bytes} {key : XOnlyKey} {sighash : SigHash}
    (hk : AffinePoint.ofXOnly? key.bytes = none) :
    (schnorr signature key sighash).item? = none := by
  simp [item?, hk]

/-- Only a Schnorr check is read, and its item gives it back. -/
theorem question_of_item? {check : Check} {item : BatchItem} (h : check.item? = some item) :
    item.question = check := by
  cases check with
  | ecdsa => cases h
  | schnorr signature key sighash =>
    obtain ⟨parsed, hs, h⟩ := Option.bind_eq_some_iff.mp h
    obtain ⟨point, hk, h⟩ := Option.bind_eq_some_iff.mp h
    cases h
    simp only [BatchItem.question, Schnorr.Signature.bytes_of_ofBytes? hs,
      AffinePoint.toXOnly_of_ofXOnly? hk]

theorem isSchnorr_of_item? {check : Check} {item : BatchItem} (h : check.item? = some item) :
    check.isSchnorr = true := by
  cases check with
  | ecdsa => cases h
  | schnorr => rfl

/-- A check and its item have one verdict. -/
theorem isValid_of_item? {check : Check} {item : BatchItem} (h : check.item? = some item) :
    check.isValid = item.isValid := by
  cases check with
  | ecdsa => cases h
  | schnorr signature key sighash =>
    obtain ⟨parsed, hs, h⟩ := Option.bind_eq_some_iff.mp h
    obtain ⟨point, hk, h⟩ := Option.bind_eq_some_iff.mp h
    cases h
    simp only [isValid, isValidSchnorr, hs, hk, BatchItem.isValid]

/-- A Schnorr check that no batch takes is not valid. -/
theorem isValid_of_item?_none {check : Check} (kind : check.isSchnorr = true)
    (h : check.item? = none) : check.isValid = false := by
  cases check with
  | ecdsa => cases kind
  | schnorr signature key sighash =>
    cases hs : Schnorr.Signature.ofBytes? signature with
    | none => simp only [isValid, isValidSchnorr, hs]
    | some parsed =>
      cases hk : AffinePoint.ofXOnly? key.bytes with
      | none => simp only [isValid, isValidSchnorr, hs, hk]
      | some point =>
        rw [item?_eq_some hs hk] at h
        cases h

/-- Every valid Schnorr check is taken by a batch. -/
theorem exists_item?_of_isValid {check : Check} (kind : check.isSchnorr = true)
    (valid : check.isValid = true) : ∃ item, check.item? = some item := by
  cases read : check.item? with
  | none =>
    rw [isValid_of_item?_none kind read] at valid
    cases valid
  | some item => exact ⟨item, rfl⟩

def sample : Check :=
  .schnorr
    ((Bytes32.ofNat 0xe8e3115abfc3dc3e87bce6232d0a5407cb469b889445d15f0c8a2dabad9ad12e).toList ++
      (Bytes32.ofNat 0x53f93f0ef705b4207e27eb746fc83f3cf903af6be963adf5bd6687cd33451452).toList)
    ⟨Bytes32.ofNat 0xdbb1f1b0878c62a94b3cffdcc9def5455dcd1d2e2d069ee4e9361aa4ae47bc73⟩
    ⟨Bytes32.ofNat 0x000000025a5a5a5a5a5a5a5a5a5a5a5a5a5a5a5a5a5a5a5a5a5a5a5a5a5a5a5a⟩

theorem isValid_sample : sample.isValid = true := by decide +kernel

/-- A check that a batch takes, of a signature that is not valid. -/
def forged : Check :=
  .schnorr (List.replicate 64 0xff)
    ⟨Bytes32.ofNat 0xdbb1f1b0878c62a94b3cffdcc9def5455dcd1d2e2d069ee4e9361aa4ae47bc73⟩
      ⟨Bytes32.replicate 0⟩

theorem isValid_forged : forged.isValid = false := by decide +kernel

theorem exists_item?_forged : ∃ item, forged.item? = some item :=
  Option.isSome_iff_exists.mp (by decide +kernel)

end Check

end SigValidation
