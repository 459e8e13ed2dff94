import SigValidation.Proofs.Routine.Yields
/-!
# The steps of the secp256k1 context

Each call on the batch context, for each state it can meet. No call panics.
-/
namespace SigValidation

namespace BatchContext

open Curve

variable {c : BatchContext}

theorem yields_isUsable (c : BatchContext) :
    BatchBackend.isUsable.Yields c c.usable c := ⟨[], run_isUsable c⟩

theorem yields_parse (key : XOnlyKey) (c : BatchContext) :
    (BatchBackend.parse key).Yields c (AffinePoint.ofXOnly? key.bytes) c := ⟨[], run_parse key c⟩

theorem yields_verify (usable : c.usable = true) :
    BatchBackend.verify.Yields c (c.items.all BatchItem.isValid)
      { c with items := [], usable := c.items.all BatchItem.isValid } := by
  refine ⟨[.batchVerified c.items.length (c.items.all BatchItem.isValid)], ?_⟩
  change verify.run c = _
  rw [run_verify, if_pos usable]

/-- An unusable context fails every verification and stays as it is. -/
theorem yields_verify_unusable (unusable : c.usable = false) :
    BatchBackend.verify.Yields c false c := by
  refine ⟨[], ?_⟩
  change verify.run c = _
  rw [run_verify, if_neg (by rw [unusable]; decide)]

section Add

variable {signature : Bytes} {parsed : Schnorr.Signature} (sighash : SigHash) (key : AffinePoint)

/-- Bytes that are no signature are refused before anything else. -/
theorem yields_add_malformed (malformed : Schnorr.Signature.ofBytes? signature = none) :
    (BatchBackend.add signature sighash key).Yields c false c := by
  refine ⟨[], ?_⟩
  change (add signature sighash key).run c = _
  rw [run_add, malformed]
  cases c.usable <;> rfl

theorem yields_add_unusable (signature : Bytes) (unusable : c.usable = false) :
    (BatchBackend.add signature sighash key).Yields c false c := by
  refine ⟨[], ?_⟩
  change (add signature sighash key).run c = _
  rw [run_add, unusable]

theorem yields_add_room (usable : c.usable = true)
    (parses : Schnorr.Signature.ofBytes? signature = some parsed)
    (room : c.items.length ≠ c.capacity) :
    (BatchBackend.add signature sighash key).Yields c true
      { c with items := c.items ++ [⟨parsed, sighash, key⟩] } := by
  refine ⟨[], ?_⟩
  change (add signature sighash key).run c = _
  rw [run_add, usable, parses]
  exact if_neg room

/-- A full batch that is valid makes room for the next signature. -/
theorem yields_add_full_valid (usable : c.usable = true)
    (parses : Schnorr.Signature.ofBytes? signature = some parsed)
    (full : c.items.length = c.capacity) (valid : c.items.all BatchItem.isValid = true) :
    (BatchBackend.add signature sighash key).Yields c true
      { c with items := [⟨parsed, sighash, key⟩], usable := true } := by
  refine ⟨[.batchVerified c.items.length true], ?_⟩
  change (add signature sighash key).run c = _
  rw [run_add, usable, parses]
  exact (if_pos full).trans (if_pos valid)

/-- A full batch that is not valid makes the context unusable. -/
theorem yields_add_full_invalid (usable : c.usable = true)
    (parses : Schnorr.Signature.ofBytes? signature = some parsed)
    (full : c.items.length = c.capacity) (invalid : c.items.all BatchItem.isValid = false) :
    (BatchBackend.add signature sighash key).Yields c false
      { c with items := [], usable := false } := by
  refine ⟨[.batchVerified c.items.length false], ?_⟩
  change (add signature sighash key).run c = _
  rw [run_add, usable, parses]
  exact (if_pos full).trans (if_neg (by rw [invalid]; decide))

end Add

end BatchContext

end SigValidation
