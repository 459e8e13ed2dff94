import SigValidation.Bytes.Basic
import SigValidation.Text.Debug
/-!
# Amounts of satoshis

An amount lies between zero and all the money there can be. It is made from a signed or an unsigned
64-bit number or from eight bytes, least significant first, and every way refuses the numbers out of
range with the number itself. The data that the inputs of a transaction share are the amounts they
spend, in the order of the inputs.
-/
namespace SigValidation

open Text

/-- The satoshis in one coin. -/
def coin : Nat := 100000000

/-- The most satoshis that can ever exist. -/
def maxMoney : Nat := 21000000 * coin

/-- A number of satoshis in the valid range. -/
structure Amount where
  satoshis : Nat
  le_maxMoney : satoshis ≤ maxMoney
  deriving DecidableEq

/-- Why a number is no amount. -/
inductive AmountError where
  /-- The number lies outside the valid range. -/
  | outOfRange (value : Int64)
  /-- The number does not even fit a signed 64-bit number. -/
  | tooLarge (value : UInt64)
  deriving DecidableEq, Repr

namespace AmountError

def invalidValue : AmountError → Int
  | outOfRange value => value.toInt
  | tooLarge value => value.toNat

def validRange : DebugTree := .range 0 maxMoney

def message : AmountError → String
  | outOfRange value =>
    "input " ++ decimal value.toInt ++ " is outside of valid range for satoshi Amount, valid_range="
      ++ validRange.plain false
  | tooLarge value => decimal value.toNat ++ " could not be converted to an i64 Amount"

end AmountError

/-- The unsigned number that equals a signed one, if there is one. -/
def unsigned? (value : Int64) : Option UInt64 :=
  if 0 ≤ value.toInt then some (UInt64.ofNat value.toInt.toNat) else none

namespace Amount

def zero : Amount := ⟨0, Nat.zero_le _⟩

instance : Inhabited Amount := ⟨zero⟩

def ofInt64 (value : Int64) : Except AmountError Amount :=
  if h : 0 ≤ value.toInt ∧ value.toInt ≤ maxMoney then .ok ⟨value.toInt.toNat, by omega⟩
  else .error (.outOfRange value)

def ofUInt64 (value : UInt64) : Except AmountError Amount :=
  if value.toNat < signedBound then ofInt64 (Int64.ofNat value.toNat) else .error (.tooLarge value)

/-- The amount of a number that is known to be in range; any other number is a mistake of the
caller. The numbers are compared as signed ones. -/
def ofTrusted (value : Int64) : Except Panic Amount :=
  if h : value ≤ Int64.ofNat maxMoney ∧ 0 ≤ value then
    .ok ⟨value.toInt.toNat, Int.toNat_le.mpr (Int64.le_iff_toInt_le.mp h.1)⟩
  else .error .amountOutOfRange

/-- The amount written in eight bytes as a signed number, least significant byte first. -/
def ofBytes (bytes : Bytes) : Except AmountError Amount :=
  ofInt64 (Int64.ofNat (Bytes.toNatLE bytes))

/-- The eight bytes of an amount, least significant first. -/
def toBytes (a : Amount) : Bytes := Bytes.ofNatLE 8 a.satoshis

def toInt64 (a : Amount) : Int64 := Int64.ofNat a.satoshis

def toUInt64 (a : Amount) : UInt64 := UInt64.ofNat a.satoshis

/-- The unsigned number made from the signed one, which is trusted not to be negative. -/
def expectUInt64 (a : Amount) : Except Panic UInt64 :=
  match unsigned? a.toInt64 with
  | some value => .ok value
  | none => .error .negativeAmount

instance : Ord Amount := ⟨fun a b => compare a.satoshis b.satoshis⟩

/-- The number of satoshis, padded as a number is. -/
def display (f : Format) (a : Amount) : String := f.number a.satoshis

def debugTree (a : Amount) : DebugTree := .tuple "Amount" [.number a.satoshis]

end Amount

def AmountError.debugTree? : AmountError → Option DebugTree
  | outOfRange value =>
    some (.record "Constraint" [("value", .number value.toInt), ("range", validRange)])
  | tooLarge _ => none

structure TxData where
  spentAmounts : List Amount := []
  deriving DecidableEq

namespace TxData

def hasSpentOutputs (t : TxData) : Bool := !t.spentAmounts.isEmpty

def spentAmount? (t : TxData) (input : Nat) : Option Amount := t.spentAmounts[input]?

def debugTree (t : TxData) : DebugTree :=
  .record "PrecomputedTxData" [("spent_amounts", .list (t.spentAmounts.map Amount.debugTree))]

end TxData

end SigValidation
