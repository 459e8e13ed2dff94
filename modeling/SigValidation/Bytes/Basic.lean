/-!
# Byte strings

Byte strings are lists of bytes, and numbers are written into them in base 256 with a fixed width.
`ofNatLE` and `ofNatBE` cut a number to the given width. In hexadecimal a byte is two lower-case
digits. Digests, x-only public keys and fingerprints are all 32 bytes long; there the length is part
of the type.
-/
namespace SigValidation

/-- A byte string of any length. -/
abbrev Bytes := List UInt8

/-- The numbers below it, `2 ^ 63`, fit eight bytes that are read as a signed number. -/
def signedBound : Nat := 0x8000000000000000

namespace Bytes

/-- The number whose base-256 digits are the bytes, least significant first. -/
def toNatLE : Bytes → Nat
  | [] => 0
  | b :: rest => b.toNat + 256 * toNatLE rest

/-- The number whose base-256 digits are the bytes, most significant first. -/
def toNatBE (bytes : Bytes) : Nat := toNatLE bytes.reverse

/-- The `width` lowest base-256 digits of a number, least significant first. -/
def ofNatLE : Nat → Nat → Bytes
  | 0, _ => []
  | width + 1, n => UInt8.ofNat n :: ofNatLE width (n / 256)

/-- The `width` lowest base-256 digits of a number, most significant first. -/
def ofNatBE (width n : Nat) : Bytes := (ofNatLE width n).reverse

/-- The first `count` pieces of `size` bytes each. -/
def pieces (size : Nat) : Nat → Bytes → List Bytes
  | 0, _ => []
  | count + 1, bytes => bytes.take size :: pieces size count (bytes.drop size)

def ofText (text : String) : Bytes := text.toUTF8.toList

@[simp] theorem length_ofNatLE (width n : Nat) : (ofNatLE width n).length = width := by
  induction width generalizing n with
  | zero => rfl
  | succ width ih => simp [ofNatLE, ih]

@[simp] theorem length_ofNatBE (width n : Nat) : (ofNatBE width n).length = width := by
  simp [ofNatBE]

/-- Digits read and written again in the same width are the same digits. -/
theorem ofNatLE_toNatLE (bytes : Bytes) : ofNatLE bytes.length (toNatLE bytes) = bytes := by
  induction bytes with
  | nil => rfl
  | cons b rest ih =>
    have hb := b.toNat_lt
    have hq : (b.toNat + 256 * toNatLE rest) / 256 = toNatLE rest := by omega
    have hd : UInt8.ofNat (b.toNat + 256 * toNatLE rest) = b := by
      apply UInt8.toNat_inj.mp
      simp only [UInt8.toNat_ofNat']
      omega
    simp only [toNatLE, List.length_cons, ofNatLE, hq, hd, ih]

/-- The digits of a byte string's number are the byte string itself. -/
theorem ofNatBE_toNatBE (bytes : Bytes) : ofNatBE bytes.length (toNatBE bytes) = bytes := by
  have h := ofNatLE_toNatLE bytes.reverse
  rw [List.length_reverse] at h
  rw [ofNatBE, toNatBE, h, List.reverse_reverse]

/-- The digit of a number below sixteen, in lower case. -/
def hexDigit (n : Nat) : Char := if n < 10 then Char.ofNat (48 + n) else Char.ofNat (87 + n)

/-- The number a digit of either case stands for. -/
def hexValue? (c : Char) : Option Nat :=
  if '0' ≤ c ∧ c ≤ '9' then some (c.toNat - 48)
  else if 'a' ≤ c ∧ c ≤ 'f' then some (c.toNat - 87)
  else if 'A' ≤ c ∧ c ≤ 'F' then some (c.toNat - 55)
  else none

def hexDigits : Bytes → List Char
  | [] => []
  | b :: rest => hexDigit (b.toNat / 16) :: hexDigit (b.toNat % 16) :: hexDigits rest

def toHex (bytes : Bytes) : String := String.ofList (hexDigits bytes)

/-- The bytes whose digits are given; an odd digit or another character is refused. -/
def ofHexDigits? : List Char → Option Bytes
  | [] => some []
  | [_] => none
  | high :: low :: rest => do
    let h ← hexValue? high
    let l ← hexValue? low
    let bytes ← ofHexDigits? rest
    return UInt8.ofNat (16 * h + l) :: bytes

def ofHex? (text : String) : Option Bytes := ofHexDigits? text.toList

end Bytes

/-- A byte string of length 32. -/
structure Bytes32 where
  toList : Bytes
  length_toList : toList.length = 32
  deriving DecidableEq

namespace Bytes32

def ofList? (bytes : Bytes) : Option Bytes32 :=
  if h : bytes.length = 32 then some ⟨bytes, h⟩ else none

/-- The 32 lowest base-256 digits of a number, most significant first. -/
def ofNat (n : Nat) : Bytes32 := ⟨Bytes.ofNatBE 32 n, Bytes.length_ofNatBE 32 n⟩

/-- The number written in the 32 bytes, most significant first. -/
def toNat (b : Bytes32) : Nat := Bytes.toNatBE b.toList

def toHex (b : Bytes32) : String := Bytes.toHex b.toList

def replicate (b : UInt8) : Bytes32 := ⟨List.replicate 32 b, List.length_replicate⟩

theorem toList_injective {a b : Bytes32} (h : a.toList = b.toList) : a = b := by
  cases a; cases b; cases h; rfl

@[simp] theorem ofNat_toNat (b : Bytes32) : ofNat b.toNat = b := by
  apply toList_injective
  have h := Bytes.ofNatBE_toNatBE b.toList
  rw [b.length_toList] at h
  exact h

theorem ofList?_toList (b : Bytes32) : ofList? b.toList = some b := by
  simp [ofList?, b.length_toList]

end Bytes32

end SigValidation
