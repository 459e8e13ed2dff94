import SigValidation.Proofs.Check.Item
/-!
# Where the input of an ECDSA fingerprint is cut

Key and signature of an ECDSA check may have any length, and the input of its fingerprint puts one
right behind the other. So the input gives the signature hash back and the bytes of key and
signature together, but not the place where the key ends: two checks that differ only in that place
have one fingerprint. A key that is a point, however, says by its first byte how long it is, and
between two such keys there is only one cut. So the input names one check among all that can succeed
(`Check.preimage_unambiguous`).
-/
namespace SigValidation

open Curve

namespace Curve.AffinePoint

/-- How many bytes follow the tag of a key. -/
def coordinateBytes (tag : UInt8) : Nat := if tag = 2 ∨ tag = 3 then 32 else 64

theorem tag_of_ofCompressed? {tag : UInt8} {xBytes : Bytes}
    (point : (ofCompressed? tag xBytes).isSome = true) : tag = 2 ∨ tag = 3 := by
  obtain ⟨p, read⟩ := Option.isSome_iff_exists.mp point
  obtain ⟨x, _, read⟩ := Option.bind_eq_some_iff.mp read
  split at read
  · rename_i even
    exact Or.inl even
  · split at read
    · rename_i odd
      exact Or.inr odd
    · cases read

theorem tag_of_ofUncompressed? {tag : UInt8} {xBytes yBytes : Bytes}
    (point : (ofUncompressed? tag xBytes yBytes).isSome = true) : ¬(tag = 2 ∨ tag = 3) := by
  rintro (rfl | rfl) <;>
  · obtain ⟨p, read⟩ := Option.isSome_iff_exists.mp point
    obtain ⟨x, _, read⟩ := Option.bind_eq_some_iff.mp read
    obtain ⟨y, _, read⟩ := Option.bind_eq_some_iff.mp read
    simp at read

/-- A key that is a point is as long as its tag says. -/
theorem length_of_ofTagged? {tag : UInt8} {rest : Bytes}
    (point : (ofTagged? (tag :: rest)).isSome = true) : rest.length = coordinateBytes tag := by
  change (if rest.length = 32 then ofCompressed? tag rest
    else if rest.length = 64 then ofUncompressed? tag (rest.take 32) (rest.drop 32)
    else none).isSome = true at point
  unfold coordinateBytes
  by_cases short : rest.length = 32
  · rw [if_pos short] at point
    rw [if_pos (tag_of_ofCompressed? point), short]
  · rw [if_neg short] at point
    by_cases long : rest.length = 64
    · rw [if_pos long] at point
      rw [if_neg (tag_of_ofUncompressed? point), long]
    · rw [if_neg long] at point
      cases point

/-- Of two keys that are points neither is a proper beginning of the other. -/
theorem eq_of_append_eq {key key' tail tail' : Bytes} (point : (ofTagged? key).isSome = true)
    (point' : (ofTagged? key').isSome = true) (same : key ++ tail = key' ++ tail') :
    key = key' ∧ tail = tail' := by
  cases key with
  | nil => cases point
  | cons tag rest =>
    cases key' with
    | nil => cases point'
    | cons tag' rest' =>
      have tags : tag = tag' := (List.cons.inj same).1
      refine List.append_inj same ?_
      rw [List.length_cons, List.length_cons, length_of_ofTagged? point,
        length_of_ofTagged? point', tags]

end Curve.AffinePoint

namespace Check

def HasPoint : Check → Prop
  | schnorr _ key _ => (AffinePoint.ofXOnly? key.bytes).isSome = true
  | ecdsa _ key _ => (AffinePoint.ofTagged? key).isSome = true

/-- A check that the cryptography accepts has a point for its key. -/
theorem hasPoint_of_isValid {check : Check} (valid : check.isValid = true) : check.HasPoint := by
  cases check with
  | schnorr signature key sighash =>
    change isValidSchnorr signature key sighash = true at valid
    unfold isValidSchnorr at valid
    split at valid
    · rename_i read
      exact Option.isSome_iff_exists.mpr ⟨_, read⟩
    · cases valid
  | ecdsa signature key sighash =>
    change isValidEcdsa signature key sighash = true at valid
    unfold isValidEcdsa at valid
    split at valid
    · rename_i read
      exact Option.isSome_iff_exists.mpr ⟨_, read⟩
    · cases valid

/-- Two ECDSA checks of one signature hash whose bytes are the same, cut at different places. -/
inductive Recut : Check → Check → Prop where
  | intro {signature key signature' key' : Bytes} {sighash : SigHash}
      (bytes : key ++ signature = key' ++ signature')
      (moved : key.length ≠ key'.length) : Recut (.ecdsa signature key sighash)
        (.ecdsa signature' key' sighash)

/-- Recut checks have one input, as nothing in it marks the cut. -/
theorem Recut.preimage_eq {check other : Check} (h : Recut check other) :
    check.preimage = other.preimage := by
  cases h with
  | intro bytes moved => exact preimage_eq_iff.mpr ⟨rfl, rfl, bytes⟩

/-- A recut check cannot be told from the first by its fingerprint. -/
theorem Recut.fingerprint_eq {check other : Check} (h : Recut check other) :
    check.fingerprint = other.fingerprint := by
  rw [fingerprint, fingerprint, h.preimage_eq]

/-- Checks with one fingerprint input are the same or recut. -/
theorem eq_or_recut_of_preimage_eq {check other : Check} (same : check.preimage = other.preimage) :
    check = other ∨ Recut check other := by
  obtain ⟨kinds, sighashes, bytes⟩ := preimage_eq_iff.mp same
  cases check with
  | schnorr => exact Or.inl (eq_of_preimage_eq rfl same)
  | ecdsa signature key sighash =>
    cases other with
    | schnorr => cases kinds
    | ecdsa signature' key' sighash' =>
      cases sighashes
      by_cases moved : key.length = key'.length
      · obtain ⟨keys, signatures⟩ := List.append_inj bytes moved
        exact Or.inl (eq_of_parts rfl rfl keys signatures)
      · exact Or.inr (.intro bytes moved)

/-- At most one of two recut checks has a point for its key. -/
theorem Recut.not_hasPoint {check other : Check} (h : Recut check other) (point : check.HasPoint) :
    ¬other.HasPoint := by
  cases h with
  | intro bytes moved =>
    intro point'
    exact moved (congrArg List.length (AffinePoint.eq_of_append_eq point point' bytes).1)

def sampleKey : Bytes :=
  0x03 :: (Bytes32.ofNat 0xdbb1f1b0878c62a94b3cffdcc9def5455dcd1d2e2d069ee4e9361aa4ae47bc73).toList

/-- What follows the first byte of a signature under that key. -/
def sampleTail : Bytes :=
  [0x45, 0x02, 0x21, 0x00] ++
    (Bytes32.ofNat 0xeca07b913f74366974a89b522c51ca7fe52542839222c5be270ba50614506796).toList ++
    [0x02, 0x20] ++
      (Bytes32.ofNat 0x67925b96dbe3f4c156a68e96c9df937f60f585b5b66811d8480d793d4aa67041).toList

def ecdsaSample : Check :=
  .ecdsa (0x30 :: sampleTail) sampleKey
    ⟨Bytes32.ofNat 0x000000025a5a5a5a5a5a5a5a5a5a5a5a5a5a5a5a5a5a5a5a5a5a5a5a5a5a5a5a⟩

/-- The sample with the first byte of the signature behind the key. -/
def recutSample : Check :=
  .ecdsa sampleTail (sampleKey ++ [0x30])
    ⟨Bytes32.ofNat 0x000000025a5a5a5a5a5a5a5a5a5a5a5a5a5a5a5a5a5a5a5a5a5a5a5a5a5a5a5a⟩

theorem recut_sample : Recut ecdsaSample recutSample :=
  .intro (by rw [List.append_assoc]; rfl) (by decide)

theorem isValid_ecdsaSample : ecdsaSample.isValid = true := by decide +kernel

theorem isValid_recutSample : recutSample.isValid = false := by decide +kernel

/-- The input of a fingerprint is unambiguous. It gives back the kind and the signature hash of
every check, of a Schnorr check also the key and the signature, and of an ECDSA check these too as
long as the keys in question are points. -/
theorem preimage_unambiguous {check other : Check} (same : check.preimage = other.preimage) :
    check.isSchnorr = other.isSchnorr ∧ check.sighash = other.sighash ∧
      (check.isSchnorr = true → check.keyBytes = other.keyBytes ∧
        check.signature = other.signature) ∧
      (check.isSchnorr = false → (AffinePoint.ofTagged? check.keyBytes).isSome = true →
        (AffinePoint.ofTagged? other.keyBytes).isSome = true →
        check.keyBytes = other.keyBytes ∧ check.signature = other.signature) := by
  obtain ⟨kinds, sighashes, bytes⟩ := preimage_eq_iff.mp same
  refine ⟨kinds, sighashes, fun kind => ?_, fun _ point point' => ?_⟩
  · rw [eq_of_preimage_eq kind same]
    exact ⟨rfl, rfl⟩
  · -- neither key is a proper beginning of the other
    exact AffinePoint.eq_of_append_eq point point' bytes

/-- The bytes of key and signature, cut after 33 bytes, are those of the ECDSA sample again; with
one byte more in front of the cut they have no point for a key. The Schnorr sample is put together
again from its bytes, cut after 32. -/
theorem preimage_unambiguous_samples :
    let bytes := ecdsaSample.keyBytes ++ ecdsaSample.signature
    let cut : Check := .ecdsa (bytes.drop 33) (bytes.take 33) ecdsaSample.sighash
    let joined : Check := .schnorr ((sample.keyBytes ++ sample.signature).drop 32)
      ⟨⟨(sample.keyBytes ++ sample.signature).take 32, rfl⟩⟩ sample.sighash
    (ecdsaSample.preimage = cut.preimage ∧
      (AffinePoint.ofTagged? ecdsaSample.keyBytes).isSome = true ∧
      (AffinePoint.ofTagged? cut.keyBytes).isSome = true ∧
      ecdsaSample.keyBytes = cut.keyBytes ∧ ecdsaSample.signature = cut.signature) ∧
    (ecdsaSample.preimage = recutSample.preimage ∧ ecdsaSample.sighash = recutSample.sighash ∧
      (AffinePoint.ofTagged? recutSample.keyBytes).isSome = false) ∧
    (sample.preimage = joined.preimage ∧ sample.isSchnorr = true ∧
      sample.keyBytes = joined.keyBytes ∧ sample.signature = joined.signature) := by
  intro bytes cut joined
  have same_cut : ecdsaSample.preimage = cut.preimage :=
    preimage_eq_iff.mpr ⟨rfl, rfl, (List.take_append_drop 33 bytes).symm⟩
  have same_joined : sample.preimage = joined.preimage :=
    preimage_eq_iff.mpr ⟨rfl, rfl, (List.take_append_drop 32 _).symm⟩
  have point : (AffinePoint.ofTagged? ecdsaSample.keyBytes).isSome = true :=
    hasPoint_of_isValid isValid_ecdsaSample
  refine ⟨⟨same_cut, point, point, (preimage_unambiguous same_cut).2.2.2 rfl point point⟩,
    ⟨recut_sample.preimage_eq, (preimage_unambiguous recut_sample.preimage_eq).2.1, ?_⟩,
    same_joined, rfl, (preimage_unambiguous same_joined).2.2.1 rfl⟩
  rw [Bool.eq_false_iff]
  intro point'
  have keys := ((preimage_unambiguous recut_sample.preimage_eq).2.2.2 rfl point point').1
  exact absurd (congrArg List.length keys) (by decide)

end Check

/-- A check and its recut do not collide: they have one fingerprint for they have one input. -/
theorem Collisionless.of_recut {check other : Check} (h : Check.Recut check other) :
    Collisionless [other, check] := by
  have one_input : ∀ c ∈ [other, check], c.preimage = check.preimage := by
    intro c member
    rcases List.mem_cons.mp member with rfl | member
    · exact h.preimage_eq.symm
    · rw [List.mem_singleton.mp member]
  intro a ha b hb _
  rw [one_input a ha, one_input b hb]

/-- The sample checks do not collide. -/
theorem Collisionless.samples :
    Collisionless [.sample, .forged, .ecdsaSample] := .of_nodup (by decide +kernel)

end SigValidation
