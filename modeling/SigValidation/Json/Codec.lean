import SigValidation.Amount
import SigValidation.Config.Toml
import SigValidation.Json.Printer
import SigValidation.Check
/-!
# Values as JSON

An amount is an integer, 32 bytes are an array of 32 integers, and the data of a transaction and a
configuration are objects. The latter two may also be written as arrays of their fields. A
configuration takes the defaults for the fields it lacks and refuses those it does not know; the
data of a transaction needs its field and passes over all others.

A value that means nothing of the wanted type is refused with one cause: the first one met, in the
order of reading.
-/
namespace SigValidation

open Text Json

namespace Json

/-- What a reader asks for. -/
inductive Wanted where
  | int64 | word | byte | boolean | sequence | bytes32 | config | txData
  deriving DecidableEq, Repr

inductive DecodeError where
  | wrongType (found : Json) (wanted : Wanted)
  | wrongInteger (found : Int) (wanted : Wanted)
  | tooShort (length : Nat) (wanted : Wanted)
  | tooLong (length : Nat)
  | unknownField (name : String) (known : List String)
  | missingField (name : String)
  | amount (cause : AmountError)

def Wanted.words : Wanted → String
  | int64 => "i64"
  | word => "usize"
  | byte => "u8"
  | boolean => "a boolean"
  | sequence => "a sequence"
  | bytes32 => "an array of length 32"
  | config => "struct Config"
  | txData => "struct PrecomputedTxData"

/-- The words for how long an array has to be at least. -/
def Wanted.lengthWords : Wanted → String
  | txData => "struct PrecomputedTxData with 1 element"
  | wanted => wanted.words

def words : Json → String
  | null => "null"
  | boolean b => "boolean " ++ tick (if b then "true" else "false")
  | integer n => "integer " ++ tick (decimal n)
  | double x => "floating point " ++ tick x.text
  | text content => "string " ++ quote content
  | array _ => "sequence"
  | object _ => "map"
where
  tick (s : String) : String := "\x60" ++ s ++ "\x60"

def DecodeError.message : DecodeError → String
  | wrongType found wanted => "invalid type: " ++ found.words ++ ", expected " ++ wanted.words
  | wrongInteger found wanted =>
    "invalid value: " ++ (integer found).words ++ ", expected " ++ wanted.words
  | tooShort length wanted =>
    "invalid length " ++ decimal length ++ ", expected " ++ wanted.lengthWords
  | tooLong length => "invalid length " ++ decimal length ++ ", expected fewer elements in array"
  | unknownField name known =>
    "unknown field " ++ words.tick name ++ ", expected " ++
      String.intercalate " or " (known.map words.tick)
  | missingField name => "missing field " ++ words.tick name
  | amount cause => cause.message

def readInteger (first last : Int) (wanted : Wanted) : Json → Except DecodeError Int
  | integer n => if first ≤ n ∧ n ≤ last then .ok n else .error (.wrongInteger n wanted)
  | json => .error (.wrongType json wanted)

def readBoolean : Json → Except DecodeError Bool
  | boolean b => .ok b
  | json => .error (.wrongType json .boolean)

def readByte (json : Json) : Except DecodeError UInt8 := do
  return UInt8.ofNat (← readInteger 0 255 .byte json).toNat

def readWord (json : Json) : Except DecodeError UInt64 := do
  return UInt64.ofNat (← readInteger 0 (UInt64.size - 1) .word json).toNat

end Json

namespace Amount

def toJson (a : Amount) : Json := .integer a.satoshis

def ofJson (json : Json) : Except DecodeError Amount := do
  let n ← readInteger (-signedBound) (signedBound - 1) .int64 json
  (ofInt64 (Int64.ofInt n)).mapError .amount

end Amount

namespace Bytes32

def toJson (b : Bytes32) : Json := .array (b.toList.map fun byte => .integer byte.toNat)

/-- Reads the first 32 elements, then asks whether there were as many and no more. -/
def ofJson : Json → Except DecodeError Bytes32
  | .array items => do
    let bytes ← (items.take 32).mapM readByte
    if h : bytes.length = 32 then
      if items.length = 32 then .ok ⟨bytes, h⟩ else .error (.tooLong items.length)
    else .error (.tooShort bytes.length .bytes32)
  | json => .error (.wrongType json .bytes32)

end Bytes32

def SigHash.toJson (s : SigHash) : Json := s.bytes.toJson

def SigHash.ofJson (json : Json) : Except DecodeError SigHash := return ⟨← Bytes32.ofJson json⟩

def XOnlyKey.toJson (k : XOnlyKey) : Json := k.bytes.toJson

def XOnlyKey.ofJson (json : Json) : Except DecodeError XOnlyKey := return ⟨← Bytes32.ofJson json⟩

namespace TxData

def toJson (t : TxData) : Json :=
  .object [("spent_amounts", .array (t.spentAmounts.map Amount.toJson))]

def readAmounts : Json → Except DecodeError (List Amount)
  | .array items => items.mapM Amount.ofJson
  | json => .error (.wrongType json .sequence)

def ofFields : List (String × Json) → Except DecodeError (List Amount)
  | [] => .error (.missingField "spent_amounts")
  | (name, value) :: rest => if name = "spent_amounts" then readAmounts value else ofFields rest

def ofJson : Json → Except DecodeError TxData
  | .object fields => return ⟨← ofFields fields⟩
  | .array [] => .error (.tooShort 0 .txData)
  | .array (first :: rest) => do
    let amounts ← readAmounts first
    if rest.isEmpty then return ⟨amounts⟩ else .error (.tooLong (rest.length + 1))
  | json => .error (.wrongType json .txData)

end TxData

namespace Config

def toJson (c : Config) : Json :=
  .object [("batch_schnorr", .boolean c.batchSchnorr),
    ("sig_cache_max_entries", .integer c.cacheLimit.toNat)]

/-- A configuration with one field read from an object. -/
def readField (c : Config) (name : String) (value : Json) : Except DecodeError Config :=
  if name = "batch_schnorr" then return { c with batchSchnorr := ← readBoolean value }
  else if name = "sig_cache_max_entries" then return { c with cacheLimit := ← readWord value }
  else .error (.unknownField name ["batch_schnorr", "sig_cache_max_entries"])

def ofJson : Json → Except DecodeError Config
  | .object fields => fields.foldlM (fun c (name, value) => readField c name value) {}
  | .array [] => .ok {}
  | .array [batch] => return { batchSchnorr := ← readBoolean batch }
  | .array (batch :: limit :: rest) => do
    let batchSchnorr ← readBoolean batch
    let cacheLimit ← readWord limit
    if rest.isEmpty then return { batchSchnorr, cacheLimit }
    else .error (.tooLong (rest.length + 2))
  | json => .error (.wrongType json .config)

end Config

end SigValidation
