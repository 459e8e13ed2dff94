/-!
# Binary floating-point numbers

A finite double is a sign and `mantissa * 2 ^ exponent`, with at most 53 bits in the mantissa.
`nearest?` rounds a fraction to the nearest one, a tie to the even mantissa; `shortest` finds the
fewest decimal digits that round back.
-/
namespace SigValidation.Decimal

structure Binary64 where
  negative : Bool
  mantissa : Nat
  exponent : Int
  deriving DecidableEq, Repr

namespace Binary64

def minExponent : Int := -1074

/-- The least mantissa of 53 bits, `2 ^ 52`. -/
def leastNormal : Nat := 1 <<< 52

/-- `n * 2 ^ e` as a fraction. -/
def scale (n : Nat) (e : Int) : Nat × Nat :=
  if e < 0 then (n, 1 <<< (-e).toNat) else (n <<< e.toNat, 1)

/-- The quotient rounded to the nearest number, a tie to the even one. -/
def roundDiv (num den : Nat) : Nat :=
  let q := num / den
  let twice := 2 * (num % den)
  if den < twice || (twice == den && q % 2 == 1) then q + 1 else q

/-- The double nearest to a positive fraction, unless that is beyond the largest double. The
exponent is guessed from the lengths of numerator and denominator, which leaves 53 or 54 bits before
the point. -/
def nearest? (negative : Bool) (num den : Nat) : Option Binary64 :=
  if num = 0 then some ⟨negative, 0, minExponent⟩
  else
    let guess : Int := (Nat.log2 num : Int) - Nat.log2 den - 53
    let bitsAt (e : Int) : Nat := let (m, d) := scale den e; num * d / m
    let e := if bitsAt guess < 2 * leastNormal then guess else guess + 1
    let e := if bitsAt e < 2 * leastNormal then e else e + 1
    let e := max e minExponent
    let (m, d) := scale den e
    let mantissa := roundDiv (num * d) m
    let (mantissa, e) := if mantissa = 2 * leastNormal then (leastNormal, e + 1) else (mantissa, e)
    if 971 < e then none else some ⟨negative, mantissa, e⟩

/-- The value without its sign, as a fraction. -/
def magnitude (x : Binary64) : Nat × Nat := scale x.mantissa x.exponent

/-- Whether a positive fraction lies among the reals that round to the double: between the halfway
points to its two neighbours, the halfway points themselves if the mantissa is even. The points are
counted in quarters of a unit of the mantissa; below a power of two the unit is half as large. -/
def roundsBack (x : Binary64) (num den : Nat) : Bool :=
  let even := x.mantissa % 2 == 0
  let low :=
    if x.mantissa = leastNormal && minExponent < x.exponent then 4 * x.mantissa - 1
    else 4 * x.mantissa - 2
  let high := 4 * x.mantissa + 2
  let (lowNum, lowDen) := scale low (x.exponent - 2)
  let (highNum, highDen) := scale high (x.exponent - 2)
  let below := if even then lowNum * den ≤ num * lowDen else lowNum * den < num * lowDen
  let above := if even then num * highDen ≤ highNum * den else num * highDen < highNum * den
  below && above

/-- `n * 10 ^ e` as a fraction. -/
def tens (n : Nat) (e : Int) : Nat × Nat :=
  if e < 0 then (n, Nat.pow 10 (-e).toNat) else (n * Nat.pow 10 e.toNat, 1)

/-- The number of decimal places before the point: the least power of ten above the value. -/
def magnitudeOfTen (num den : Nat) : Int :=
  if den ≤ num then (Nat.toDigits 10 (num / den)).length
  else 1 - ((Nat.toDigits 10 ((den + num - 1) / num - 1)).length : Int)

/-- The multiple of a power of ten nearest to the value, of the two next to it, that rounds back to
the double. Of two that are equally near, the even one counts. -/
def onGrid? (x : Binary64) (e : Int) : Option Nat :=
  let (num, den) := x.magnitude
  let (unitNum, unitDen) := tens 1 e
  let down := num * unitDen / (den * unitNum)
  let near := roundDiv (num * unitDen) (den * unitNum)
  let far := if near = down then down + 1 else down
  let hits (n : Nat) : Bool := let (a, b) := tens n e; 0 < n && x.roundsBack a b
  if hits near then some near
  else if hits far then some far
  else none

/-- The decimal number with the fewest digits that rounds to the double: its digits, and the places
before the point. At most 17 digits are needed. -/
def shortest (x : Binary64) : List Char × Int :=
  if x.mantissa = 0 then (['0'], 1)
  else
    let (num, den) := x.magnitude
    let places := magnitudeOfTen num den
    let found := (List.range 17).findSome? fun (n : Nat) =>
      (onGrid? x (places - (n + 1))).map fun digits => (digits, places - (n + 1))
    match found with
    | some (digits, e) =>
      let text := Nat.toDigits 10 digits
      let short := (text.reverse.dropWhile (· == '0')).reverse
      (short, e + text.length)
    | none => (['0'], 1)

/-- The shortest text. It is positional, with at least one place after the point, for values from
`1e-5` up to, but not with, `1e16`; all others have one digit before the point, and an exponent with
its sign. -/
def text (x : Binary64) : String :=
  let (digits, point) := x.shortest
  let zeros (n : Int) := List.replicate n.toNat '0'
  let body :=
    if x.mantissa = 0 then ['0', '.', '0']
    else if -5 < point ∧ point ≤ 0 then ['0', '.'] ++ zeros (-point) ++ digits
    else if 0 < point ∧ point ≤ 16 then
      if point < digits.length then digits.take point.toNat ++ ['.'] ++ digits.drop point.toNat
      else digits ++ zeros (point - digits.length) ++ ['.', '0']
    else
      let exponent :=
        if point ≤ 0 then '-' :: Nat.toDigits 10 (1 - point).toNat
        else '+' :: Nat.toDigits 10 (point - 1).toNat
      match digits with
      | [first] => first :: 'e' :: exponent
      | first :: rest => first :: '.' :: rest ++ 'e' :: exponent
      | [] => []
  String.ofList (if x.negative then '-' :: body else body)

/-- The product with a power of ten, or the quotient by one, each rounded once; the power is rounded
too. -/
def timesPowerOfTen? (x : Binary64) (e : Int) : Option Binary64 := do
  let power ← nearest? false (Nat.pow 10 e.natAbs) 1
  let (a, b) := x.magnitude
  let (c, d) := power.magnitude
  if e < 0 then nearest? x.negative (a * d) (b * c) else nearest? x.negative (a * c) (b * d)

end Binary64

end SigValidation.Decimal
