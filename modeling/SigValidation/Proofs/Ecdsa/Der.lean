import SigValidation.Ecdsa.Signature
import SigValidation.Proofs.Digits
/-!
# Reading what was written

A signature that is written in DER is read back, and whatever stands behind it does not matter. Each
part of the reader takes what the writer wrote and leaves the rest, so that the parts follow one
upon the other.
-/
namespace SigValidation

/-- Zeros in front do not change a number. -/
theorem Bytes.toNatBE_zero_cons (bytes : Bytes) : toNatBE (0 :: bytes) = toNatBE bytes := by
  rw [toNatBE, toNatBE, List.reverse_cons]
  induction bytes.reverse with
  | nil => rfl
  | cons b rest ih => rw [List.cons_append, toNatLE, toNatLE, ih]

namespace Ecdsa.Der

open Curve

/-- Leading zeros do not count. -/
theorem toNatBE_trim (bytes : Bytes) : Bytes.toNatBE (trim bytes) = Bytes.toNatBE bytes := by
  fun_induction trim bytes with
  | case1 first second rest spare ih =>
    have leading : first = 0 := by
      rw [Bool.and_eq_true, decide_eq_true_iff] at spare
      exact spare.1
    rw [ih, leading, Bytes.toNatBE_zero_cons]
  | case2 | case3 => rfl

theorem length_trim_le (bytes : Bytes) : (trim bytes).length ≤ bytes.length := by
  fun_induction trim bytes with
  | case1 first second rest spare ih => exact Nat.le_succ_of_le ih
  | case2 | case3 => exact Nat.le_refl _

section Short

variable {length : Nat}

/-- A number below 128 is a length in the short form. -/
theorem toNat_short (short : length < 128) : (UInt8.ofNat length).toNat = length := by
  rw [UInt8.toNat_ofNat']
  exact Nat.mod_eq_of_lt (Nat.lt_trans short (by decide))

theorem lt_of_short (short : length < 128) : UInt8.ofNat length < 0x80 := by
  rw [UInt8.lt_iff_toNat_lt, toNat_short short]
  exact short

theorem sequenceBody?_short (short : length < 128) (body : Bytes) :
    sequenceBody? (0x30 :: UInt8.ofNat length :: body) = some body :=
  if_pos (lt_of_short short)

theorem length?_short (short : length < 128) (rest : Bytes) :
    length? (UInt8.ofNat length :: rest) = some (length, rest) := by
  rw [length?, if_pos (lt_of_short short), toNat_short short]

theorem integer?_short {content : Bytes} (short : content.length < 128) (rest : Bytes) :
    integer? (0x02 :: UInt8.ofNat content.length :: (content ++ rest)) = some
      (Bytes.toNatBE content, rest) := by
  rw [integer?, length?_short short]
  simp

end Short

theorem length_content_le (a : Scalar) : (trim (0 :: a.toBytes.toList)).length ≤ 33 := by
  have written := length_trim_le (0 :: a.toBytes.toList)
  rw [List.length_cons, a.toBytes.length_toList] at written
  exact written

theorem toNatBE_content (a : Scalar) : Bytes.toNatBE (trim (0 :: a.toBytes.toList)) = a.val := by
  have below : a.val < 2 ^ 256 := Nat.lt_trans a.isLt (by decide)
  rw [toNatBE_trim, Bytes.toNatBE_zero_cons]
  exact Bytes32.toNat_ofNat below

/-- A scalar is read back from the integer it is written as, whatever follows. -/
theorem integer?_ofScalar (a : Scalar) (rest : Bytes) :
    integer? (ofScalar a ++ rest) = some (a.val, rest) := by
  have short : (trim (0 :: a.toBytes.toList)).length < 128 :=
    Nat.lt_of_le_of_lt (length_content_le a) (by decide)
  rw [← toNatBE_content a]
  exact integer?_short short rest

theorem length_ofScalar_le (a : Scalar) : (ofScalar a).length ≤ 35 :=
  Nat.succ_le_succ (Nat.succ_le_succ (length_content_le a))

theorem ofNumbers_val (sig : Signature) : ofNumbers sig.r.val sig.s.val = sig := by
  rw [ofNumbers, Scalar.ofNat?, Scalar.ofNat?, dif_pos sig.r.isLt, dif_pos sig.s.isLt]

/-- What is written is read, whatever follows it. -/
theorem parse?_write_append (sig : Signature) (tail : Bytes) :
    parse? (write sig ++ tail) = some sig := by
  have short : (ofScalar sig.r ++ ofScalar sig.s).length < 128 := by
    have first := length_ofScalar_le sig.r
    have second := length_ofScalar_le sig.s
    rw [List.length_append]
    omega
  have body : sequenceBody? (write sig ++ tail) =
    some (ofScalar sig.r ++ (ofScalar sig.s ++ tail)) := by
    rw [← List.append_assoc]
    exact sequenceBody?_short short _
  rw [parse?, body, Option.bind_eq_bind, Option.bind_some, integer?_ofScalar,
    Option.bind_eq_bind, Option.bind_some]
  simp only [integer?_ofScalar, Option.bind_some, ofNumbers_val]
  rfl

end Ecdsa.Der

end SigValidation
