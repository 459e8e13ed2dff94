/-!
# Coordinates and scalars of secp256k1

Both are residues modulo a prime just below `2 ^ 256`: coordinates modulo `fieldPrime`, scalars
modulo `groupOrder`, the number of points of the curve. Powers are taken by repeated squaring, and a
power also gives the inverse (the exponent is two below the prime) and, in the coordinate field, the
only candidate for a square root.
-/
namespace SigValidation.Curve

/-- The order of the coordinate field. -/
def fieldPrime : Nat := 0xfffffffffffffffffffffffffffffffffffffffffffffffffffffffefffffc2f

/-- The number of points of the curve, the point at infinity included. -/
def groupOrder : Nat := 0xfffffffffffffffffffffffffffffffebaaedce6af48a03bbfd25e8cd0364141

/-- The zero of the numerals is named, as other zeros of the natural numbers may be in scope. -/
instance : @NeZero Nat Zero.ofOfNat0 fieldPrime := ⟨by decide⟩

instance : @NeZero Nat Zero.ofOfNat0 groupOrder := ⟨by decide⟩

abbrev Coordinate := Fin fieldPrime

abbrev Scalar := Fin groupOrder

/-- The power of a residue whose exponent has at most the given number of bits. -/
def power {m : Nat} [@NeZero Nat Zero.ofOfNat0 m] (a : Fin m) (exponent : Nat) : Nat → Fin m
  | 0 => 1
  | bits + 1 =>
    let half := power a (exponent / 2) bits
    if exponent % 2 = 1 then half * half * a else half * half

namespace Coordinate

def ofNat (n : Nat) : Coordinate := Fin.ofNat fieldPrime n

/-- The coordinate a number below the field's order stands for. -/
def ofNat? (n : Nat) : Option Coordinate := if h : n < fieldPrime then some ⟨n, h⟩ else none

/-- The multiplicative inverse; zero has none and gives zero. -/
def inverse (a : Coordinate) : Coordinate := power a (fieldPrime - 2) 256

/-- A square root, if there is one. The field's order is 3 modulo 4, so the power tried is the only
candidate up to sign. -/
def squareRoot? (a : Coordinate) : Option Coordinate :=
  let root := power a ((fieldPrime + 1) / 4) 256
  if root * root = a then some root else none

def isOdd (a : Coordinate) : Bool := a.val % 2 == 1

end Coordinate

namespace Scalar

def ofNat (n : Nat) : Scalar := Fin.ofNat groupOrder n

/-- The scalar a number below the group's order stands for. -/
def ofNat? (n : Nat) : Option Scalar := if h : n < groupOrder then some ⟨n, h⟩ else none

/-- The multiplicative inverse; zero has none and gives zero. -/
def inverse (a : Scalar) : Scalar := power a (groupOrder - 2) 256

/-- Whether the scalar lies in the upper half, above `groupOrder / 2`. -/
def isHigh (a : Scalar) : Bool := groupOrder / 2 < a.val

end Scalar

end SigValidation.Curve
