import SigValidation.Bytes.Basic
import SigValidation.Curve.Modular
/-!
# Points of secp256k1

An affine point carries the proof that it satisfies `y² = x³ + 7`. Sums and multiples are computed
in Jacobian coordinates, where `(x, y, z)` stands for the affine point `(x / z², y / z³)` and
`z = 0` for the point at infinity, so that only the way back to affine coordinates needs an inverse.

A public key is written as a tag byte and one or both coordinates: 33 bytes under the tags 2 and 3,
where the tag gives the parity of the second coordinate, or 65 bytes under the tags 4, 6 and 7. The
first coordinate alone, 32 bytes, names the point whose second coordinate is even.
-/
namespace SigValidation.Curve

def OnCurve (x y : Coordinate) : Prop := y * y = x * x * x + 7

instance (x y : Coordinate) : Decidable (OnCurve x y) := inferInstanceAs (Decidable (_ = _))

/-- A point of the curve other than the point at infinity. -/
structure AffinePoint where
  x : Coordinate
  y : Coordinate
  onCurve : OnCurve x y
  deriving DecidableEq

/-- A point in Jacobian coordinates. -/
structure Point where
  x : Coordinate
  y : Coordinate
  z : Coordinate
  deriving DecidableEq

namespace AffinePoint

def ofCoordinates? (x y : Coordinate) : Option AffinePoint :=
  if h : OnCurve x y then some ⟨x, y, h⟩ else none

/-- The point with the given first coordinate whose second one is odd or even as asked. -/
def ofX? (x : Coordinate) (odd : Bool) : Option AffinePoint := do
  let y ← Coordinate.squareRoot? (x * x * x + 7)
  ofCoordinates? x (if y.isOdd = odd then y else -y)

/-- The point with the other second coordinate. -/
def negate (p : AffinePoint) : AffinePoint where
  x := p.x
  y := -p.y
  onCurve := by
    have h := p.onCurve
    unfold OnCurve at *
    grind

def toPoint (p : AffinePoint) : Point := ⟨p.x, p.y, 1⟩

end AffinePoint

namespace Point

def infinity : Point := ⟨1, 1, 0⟩

def negate (p : Point) : Point := ⟨p.x, -p.y, p.z⟩

def double (p : Point) : Point :=
  let xx := p.x * p.x
  let yy := p.y * p.y
  let yyyy := yy * yy
  let s := p.x * yy
  let d := s + s + s + s
  let m := xx + xx + xx
  let x := m * m - (d + d)
  let eight := yyyy + yyyy
  let eight := eight + eight
  let eight := eight + eight
  let yz := p.y * p.z
  ⟨x, m * (d - x) - eight, yz + yz⟩

def add (p q : Point) : Point :=
  if p.z = 0 then q
  else if q.z = 0 then p
  else
    let pzz := p.z * p.z
    let qzz := q.z * q.z
    let u := p.x * qzz
    let s := p.y * qzz * q.z
    let h := q.x * pzz - u
    let r := q.y * pzz * p.z - s
    if h = 0 then
      if r = 0 then p.double else infinity
    else
      let hh := h * h
      let hhh := hh * h
      let v := u * hh
      let x := r * r - hhh - (v + v)
      ⟨x, r * (v - x) - s * hhh, h * p.z * q.z⟩

/-- The multiple of a point by a number of at most the given number of bits. -/
def multiple (p : Point) (n : Nat) : Nat → Point
  | 0 => infinity
  | bits + 1 =>
    let even := (multiple p (n / 2) bits).double
    if n % 2 = 1 then even.add p else even

/-- The sum of a multiple of one point and a multiple of another, in one pass over the bits of both
numbers; `sum` is the sum of the two points. -/
def combination (p q sum : Point) (m n : Nat) : Nat → Point
  | 0 => infinity
  | bits + 1 =>
    let even := (combination p q sum (m / 2) (n / 2) bits).double
    if m % 2 = 1 then
      if n % 2 = 1 then even.add sum else even.add p
    else
      if n % 2 = 1 then even.add q else even

/-- The affine coordinates of a point other than the point at infinity. -/
def affine? (p : Point) : Option (Coordinate × Coordinate) :=
  if p.z = 0 then none
  else
    let inverse := p.z.inverse
    let square := inverse * inverse
    some (p.x * square, p.y * square * inverse)

end Point

def generator : Point where
  x := Coordinate.ofNat 0x79be667ef9dcbbac55a06295ce870b07029bfcdb2dce28d959f2815b16f81798
  y := Coordinate.ofNat 0x483ada7726a3c4655da4fbfc0e1108a8fd17b448a68554199c47d08ffb10d4b8
  z := 1

def Scalar.timesGenerator (k : Scalar) : Point := generator.multiple k.val 256

/-- The sum of a multiple of the generator and a multiple of a point. -/
def linearCombination (a : Scalar) (b : Scalar) (q : Point) : Point :=
  Point.combination generator q (generator.add q) a.val b.val 256

def Coordinate.toBytes (a : Coordinate) : Bytes32 := Bytes32.ofNat a.val

/-- The coordinate written in 32 bytes, if their number is below the field's order. -/
def Coordinate.ofBytes? (b : Bytes32) : Option Coordinate := Coordinate.ofNat? b.toNat

def Scalar.toBytes (a : Scalar) : Bytes32 := Bytes32.ofNat a.val

/-- The scalar the number in 32 bytes is congruent to. -/
def Scalar.ofDigest (b : Bytes32) : Scalar := Scalar.ofNat b.toNat

namespace AffinePoint

/-- The point with an even second coordinate whose first one is written in the bytes. -/
def ofXOnly? (b : Bytes32) : Option AffinePoint := do
  let x ← Coordinate.ofBytes? b
  ofX? x false

/-- The first coordinate alone. -/
def toXOnly (p : AffinePoint) : Bytes32 := p.x.toBytes

/-- The point under the tag 2 or 3. -/
def ofCompressed? (tag : UInt8) (xBytes : Bytes) : Option AffinePoint := do
  let x ← (Bytes32.ofList? xBytes).bind Coordinate.ofBytes?
  if tag = 2 then ofX? x false
  else if tag = 3 then ofX? x true
  else none

/-- The point under the tag 4, 6 or 7. The tags 6 and 7 also give the parity of the second
coordinate, which has to agree. -/
def ofUncompressed? (tag : UInt8) (xBytes yBytes : Bytes) : Option AffinePoint := do
  let x ← (Bytes32.ofList? xBytes).bind Coordinate.ofBytes?
  let y ← (Bytes32.ofList? yBytes).bind Coordinate.ofBytes?
  if tag = 4 || (tag = 6 && !y.isOdd) || (tag = 7 && y.isOdd) then ofCoordinates? x y else none

/-- The point written as a tagged public key. -/
def ofTagged? : Bytes → Option AffinePoint
  | [] => none
  | tag :: rest =>
    if rest.length = 32 then ofCompressed? tag rest
    else if rest.length = 64 then ofUncompressed? tag (rest.take 32) (rest.drop 32)
    else none

/-- The 33 bytes of a point: the parity of the second coordinate, then the first one. -/
def toCompressed (p : AffinePoint) : Bytes := (if p.y.isOdd then 3 else 2) :: p.x.toBytes.toList

end AffinePoint

/-- The affine point of a point in Jacobian coordinates, if it is one of the curve's. -/
def Point.toAffine? (p : Point) : Option AffinePoint := do
  let (x, y) ← p.affine?
  AffinePoint.ofCoordinates? x y

end SigValidation.Curve
