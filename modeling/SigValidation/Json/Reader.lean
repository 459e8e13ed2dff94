import SigValidation.Bytes.Basic
import SigValidation.Json.Printer
/-!
# Reading JSON

A document is one value with blanks around it. Readers take the characters left and give a value
with the characters after it; the depth of a document is bounded by its length, which is the fuel of
the recursion.
-/
namespace SigValidation.Json

open Decimal

def isBlank (c : Char) : Bool := c == ' ' || c == '\n' || c == '\r' || c == '\t'

def skipBlanks (cs : List Char) : List Char := cs.dropWhile isBlank

/-- Four hexadecimal digits. -/
def hexUnit? : List Char → Option (Nat × List Char)
  | a :: b :: c :: d :: rest => do
    let a ← Bytes.hexValue? a
    let b ← Bytes.hexValue? b
    let c ← Bytes.hexValue? c
    let d ← Bytes.hexValue? d
    return (((a * 16 + b) * 16 + c) * 16 + d, rest)
  | _ => none

/-- The character of an escape by code: one unit, or two that make a pair. -/
def codeEscape? (cs : List Char) : Option (Char × List Char) := do
  let (high, rest) ← hexUnit? cs
  if 0xd800 ≤ high ∧ high < 0xdc00 then
    match rest with
    | '\\' :: 'u' :: rest => do
      let (low, rest) ← hexUnit? rest
      if 0xdc00 ≤ low ∧ low < 0xe000 then
        return (Char.ofNat (0x10000 + (high - 0xd800) * 0x400 + (low - 0xdc00)), rest)
      else none
    | _ => none
  else if 0xdc00 ≤ high ∧ high < 0xe000 then none
  else return (Char.ofNat high, rest)

/-- The character that a backslash and a letter stand for. -/
def letterEscape? : Char → Option Char
  | '"' => some '"'
  | '\\' => some '\\'
  | '/' => some '/'
  | 'b' => some '\x08'
  | 'f' => some '\x0c'
  | 'n' => some '\n'
  | 'r' => some '\r'
  | 't' => some '\t'
  | _ => none

/-- The rest of a text after its opening quote; the characters so far are held in reverse. -/
def textTail? : Nat → List Char → List Char → Option (String × List Char)
  | 0, _, _ => none
  | _ + 1, _, [] => none
  | fuel + 1, held, c :: rest =>
    if c = '"' then some (String.ofList held.reverse, rest)
    else if c = '\\' then
      match rest with
      | 'u' :: rest => do
        let (c, rest) ← codeEscape? rest
        textTail? fuel (c :: held) rest
      | e :: rest => do
        let c ← letterEscape? e
        textTail? fuel (c :: held) rest
      | [] => none
    else if c.toNat < 0x20 then none
    else textTail? fuel (c :: held) rest

/-- Takes digits into a number as long as it fits 64 bits; gives the number, the digits taken and
the digits left. -/
def takeDigits (n : Nat) : List Char → Nat × Nat × List Char
  | [] => (n, 0, [])
  | c :: rest =>
    let next := 10 * n + (c.toNat - 48)
    if next < UInt64.size then
      let (n, taken, left) := takeDigits next rest
      (n, taken + 1, left)
    else (n, 0, c :: rest)

/-- The double of a number's digits: as many as fit 64 bits are taken, times a power of ten. A power
beyond the range of doubles is taken in two steps. -/
def doubleOf? (negative : Bool) (whole fraction : List Char) (exponent : Int) :
    Option Binary64 := do
  let (n, _, dropped) := takeDigits 0 whole
  let (n, places, _) := takeDigits n fraction
  let significand ← Binary64.nearest? negative n 1
  let exponent := exponent + dropped.length - places
  if n = 0 then return significand
  else if exponent < -308 then do
    let small ← significand.timesPowerOfTen? (-308)
    if exponent < -616 then return ⟨negative, 0, Binary64.minExponent⟩
    else small.timesPowerOfTen? (exponent + 308)
  else if 308 < exponent then none
  else significand.timesPowerOfTen? exponent

def exponent? (cs : List Char) : Option (Option Int × List Char) :=
  let signed (negative : Bool) (cs : List Char) : Option (Option Int × List Char) :=
    let digits := cs.takeWhile Char.isDigit
    if digits.isEmpty then none
    else
      let n : Int := Nat.ofDigitChars 10 digits 0
      some (some (if negative then -n else n), cs.dropWhile Char.isDigit)
  match cs with
  | c :: rest =>
    if c = 'e' ∨ c = 'E' then
      match rest with
      | '+' :: rest => signed false rest
      | '-' :: rest => signed true rest
      | _ => signed false rest
    else some (none, c :: rest)
  | [] => some (none, [])

def fraction? : List Char → Option (Option (List Char) × List Char)
  | '.' :: rest =>
    let digits := rest.takeWhile Char.isDigit
    if digits.isEmpty then none else some (some digits, rest.dropWhile Char.isDigit)
  | cs => some (none, cs)

/-- An integer where it fits 64 bits and is not a negative zero, else a double. -/
def ofInteger? (negative : Bool) (whole : List Char) : Option Json :=
  let n := Nat.ofDigitChars 10 whole 0
  if negative then
    if 0 < n ∧ n ≤ signedBound then some (.integer (-n))
    else (doubleOf? true whole [] 0).map .double
  else if n < UInt64.size then some (.integer n)
  else (doubleOf? false whole [] 0).map .double

def number? (cs : List Char) : Option (Json × List Char) := do
  let (negative, cs) :=
    match cs with
    | '-' :: rest => (true, rest)
    | _ => (false, cs)
  let whole := cs.takeWhile Char.isDigit
  let rest := cs.dropWhile Char.isDigit
  if whole.isEmpty ∨ (whole.head? = some '0' ∧ whole.length ≠ 1) then none
  else
    let (fraction, rest) ← fraction? rest
    let (exponent, rest) ← exponent? rest
    match fraction, exponent with
    | none, none => return (← ofInteger? negative whole, rest)
    | _, _ =>
      return (.double (← doubleOf? negative whole (fraction.getD []) (exponent.getD 0)), rest)

/-- The rest after a word, if the characters start with it. -/
def word? (word : String) (cs : List Char) : Option (List Char) :=
  if word.toList.isPrefixOf cs then some (cs.drop word.length) else none

mutual

def value? : Nat → List Char → Option (Json × List Char)
  | 0, _ => none
  | fuel + 1, cs =>
    match skipBlanks cs with
    | '"' :: rest => do
      let (content, rest) ← textTail? (rest.length + 1) [] rest
      return (.text content, rest)
    | '[' :: rest =>
      match skipBlanks rest with
      | ']' :: rest => some (.array [], rest)
      | rest => do
        let (items, rest) ← items? fuel rest
        return (.array items, rest)
    | '\x7b' :: rest =>
      match skipBlanks rest with
      | '\x7d' :: rest => some (.object [], rest)
      | rest => do
        let (fields, rest) ← fields? fuel rest
        return (ofFields fields, rest)
    | 'n' :: rest => return (.null, ← word? "ull" rest)
    | 't' :: rest => return (.boolean true, ← word? "rue" rest)
    | 'f' :: rest => return (.boolean false, ← word? "alse" rest)
    | cs => number? cs

/-- The items of an array from the first one on, and its closing bracket. -/
def items? : Nat → List Char → Option (List Json × List Char)
  | 0, _ => none
  | fuel + 1, cs => do
    let (item, rest) ← value? fuel cs
    match skipBlanks rest with
    | ',' :: rest => do
      let (items, rest) ← items? fuel rest
      return (item :: items, rest)
    | ']' :: rest => return ([item], rest)
    | _ => none

/-- The fields of an object from the first one on, and its closing brace. -/
def fields? : Nat → List Char → Option (List (String × Json) × List Char)
  | 0, _ => none
  | fuel + 1, cs =>
    match skipBlanks cs with
    | '"' :: rest => do
      let (name, rest) ← textTail? (rest.length + 1) [] rest
      match skipBlanks rest with
      | ':' :: rest => do
        let (value, rest) ← value? fuel rest
        match skipBlanks rest with
        | ',' :: rest => do
          let (fields, rest) ← fields? fuel rest
          return ((name, value) :: fields, rest)
        | '\x7d' :: rest => return ([(name, value)], rest)
        | _ => none
      | _ => none
    | _ => none

end

def parse? (document : String) : Option Json := do
  let cs := document.toList
  let (value, rest) ← value? (cs.length + 1) cs
  if (skipBlanks rest).isEmpty then some value else none

end SigValidation.Json
