import SigValidation.Bytes.Basic
import SigValidation.Text.Debug
/-!
# Configuration

Whether Schnorr signatures are verified in batches, and how many entries the signature cache holds
at most; a limit of zero switches the cache off.

A configuration is written as a TOML document of two lines, a truth value and an integer. Read is
every TOML 1.0 document that assigns nothing but these two, each at most once: keys may be quoted,
integers may be based and grouped, blanks and comments may stand around. A document with any other
key or value is no configuration and is refused.
-/
namespace SigValidation

open Text

/-- The cache limit where none is given. -/
def defaultCacheLimit : Nat := 1 <<< 20

structure Config where
  batchSchnorr : Bool := true
  cacheLimit : UInt64 := UInt64.ofNat defaultCacheLimit
  deriving DecidableEq

namespace Config

/-- The two fields are all there is to a configuration. -/
theorem eq_of_fields {c d : Config} (batch : c.batchSchnorr = d.batchSchnorr)
    (limit : c.cacheLimit.toNat = d.cacheLimit.toNat) : c = d := by
  cases c
  cases d
  cases batch
  cases UInt64.toNat_inj.mp limit
  rfl

def debugTree (c : Config) : DebugTree :=
  .record "Config"
    [("batch_schnorr", .truth c.batchSchnorr),
      ("sig_cache_max_entries", .number c.cacheLimit.toNat)]

end Config

namespace Toml

inductive Value where
  | boolean (b : Bool)
  | integer (n : Int)
  deriving DecidableEq, Repr

def isBlank (c : Char) : Bool := c == ' ' || c == '\t'

/-- Whether a character may stand in comments and quoted keys: any but the controls, the tab being
none. -/
def isPlain (c : Char) : Bool := c == '\t' || (0x20 ≤ c.toNat && c.toNat != 0x7f)

def isKeyChar (c : Char) : Bool := c.isAlphanum || c == '_' || c == '-'

def isValueChar (c : Char) : Bool := c.isAlphanum || c == '_' || c == '-' || c == '+' || c == '.'

/-- Whether nothing but blanks and a comment is left of a line. -/
def isLineEnd (cs : List Char) : Bool :=
  match cs.dropWhile isBlank with
  | [] => true
  | '#' :: comment => comment.all isPlain
  | _ => false

/-- The digits of a number below the given base, without the groups' underscores; every underscore
stands between two digits. -/
def ungroup? (isDigit : Char → Bool) : List Char → Option (List Char)
  | [] => none
  | [c] => if isDigit c then some [c] else none
  | c :: '_' :: rest => if isDigit c then (ungroup? isDigit rest).map (c :: ·) else none
  | c :: rest => if isDigit c then (ungroup? isDigit rest).map (c :: ·) else none

/-- The number of the digits of either case in a base up to sixteen. -/
def based? (base : Nat) (cs : List Char) : Option Nat := do
  let digits ← ungroup? (fun c => (Bytes.hexValue? c).any (· < base)) cs
  return digits.foldl (fun n c => base * n + (Bytes.hexValue? c).getD 0) 0

/-- A number in base ten, without a leading zero. -/
def decimal? (cs : List Char) : Option Nat := do
  let digits ← ungroup? Char.isDigit cs
  if digits.head? = some '0' ∧ digits.length ≠ 1 then none else some (Nat.ofDigitChars 10 digits 0)

/-- An integer of any size. -/
def unbounded? : List Char → Option Int
  | '0' :: 'x' :: digits => (based? 16 digits).map Int.ofNat
  | '0' :: 'o' :: digits => (based? 8 digits).map Int.ofNat
  | '0' :: 'b' :: digits => (based? 2 digits).map Int.ofNat
  | '+' :: digits => (decimal? digits).map Int.ofNat
  | '-' :: digits => (decimal? digits).map fun (n : Nat) => -Int.ofNat n
  | digits => (decimal? digits).map Int.ofNat

def integer? (cs : List Char) : Option Int :=
  (unbounded? cs).filter fun n => -(signedBound : Int) ≤ n ∧ n < signedBound

def value? (cs : List Char) : Option Value :=
  if cs = ['t', 'r', 'u', 'e'] then some (.boolean true)
  else if cs = ['f', 'a', 'l', 's', 'e'] then some (.boolean false)
  else (integer? cs).map .integer

/-- The character with the code point written in hexadecimal, if it is one. -/
def codeChar? (digits : List Char) : Option Char := do
  let n ← digits.foldlM (fun n c => (Bytes.hexValue? c).map (16 * n + ·)) 0
  if n.isValidChar then some (Char.ofNat n) else none

/-- The next character of a key in double quotes, and what follows it. -/
def quotedChar? : List Char → Option (Char × List Char)
  | [] => none
  | '\\' :: 'b' :: rest => some ('\x08', rest)
  | '\\' :: 't' :: rest => some ('\t', rest)
  | '\\' :: 'n' :: rest => some ('\n', rest)
  | '\\' :: 'f' :: rest => some ('\x0c', rest)
  | '\\' :: 'r' :: rest => some ('\r', rest)
  | '\\' :: '"' :: rest => some ('"', rest)
  | '\\' :: '\\' :: rest => some ('\\', rest)
  | '\\' :: 'u' :: rest =>
    if rest.length < 4 then none else (codeChar? (rest.take 4)).map fun c => (c, rest.drop 4)
  | '\\' :: 'U' :: rest =>
    if rest.length < 8 then none else (codeChar? (rest.take 8)).map fun c => (c, rest.drop 8)
  | '\\' :: _ => none
  | c :: rest => if isPlain c && c != '"' then some (c, rest) else none

/-- The rest of a key in double quotes, after the opening one. -/
def quotedKey? : Nat → List Char → Option (List Char × List Char)
  | 0, _ => none
  | _ + 1, '"' :: rest => some ([], rest)
  | fuel + 1, cs => do
    let (c, rest) ← quotedChar? cs
    let (key, left) ← quotedKey? fuel rest
    return (c :: key, left)

/-- A bare or quoted key, and what follows it. -/
def key? : List Char → Option (List Char × List Char)
  | '"' :: rest => quotedKey? (rest.length + 1) rest
  | '\'' :: rest =>
    match rest.dropWhile fun c => c != '\'' && isPlain c with
    | '\'' :: left => some (rest.takeWhile fun c => c != '\'' && isPlain c, left)
    | _ => none
  | cs =>
    if (cs.takeWhile isKeyChar).isEmpty then none
    else some (cs.takeWhile isKeyChar, cs.dropWhile isKeyChar)

/-- The assignment on a line; none on a line that is blank but for a comment. -/
def line? (cs : List Char) : Option (Option (String × Value)) :=
  if isLineEnd cs then some none
  else do
    let (key, rest) ← key? (cs.dropWhile isBlank)
    match rest.dropWhile isBlank with
    | '=' :: rest => do
      let rest := rest.dropWhile isBlank
      let value ← value? (rest.takeWhile isValueChar)
      if isLineEnd (rest.dropWhile isValueChar) then some (some (String.ofList key, value))
      else none
    | _ => none

/-- A document without the mark that may stand in front of it. -/
def withoutMark : List Char → List Char
  | '\ufeff' :: rest => rest
  | cs => cs

def assignments? (document : String) : Option (List (String × Value)) :=
  ((Text.lines (withoutMark document.toList)).mapM line?).map fun found => found.filterMap id

end Toml

namespace Config

open Toml

/-- What the assignments so far have set. -/
structure Assigned where
  batchSchnorr : Option Bool := none
  cacheLimit : Option UInt64 := none
  deriving DecidableEq

/-- One more assignment, to a known key not yet set. -/
def Assigned.assign? (a : Assigned) (key : String) (value : Value) : Option Assigned :=
  if key = "batch_schnorr" then
    match a.batchSchnorr, value with
    | none, .boolean b => some { a with batchSchnorr := some b }
    | _, _ => none
  else if key = "sig_cache_max_entries" then
    match a.cacheLimit, value with
    | none, .integer n =>
      if 0 ≤ n then some { a with cacheLimit := some (UInt64.ofNat n.toNat) } else none
    | _, _ => none
  else none

/-- The configuration with the defaults for what is not set. -/
def Assigned.toConfig (a : Assigned) : Config where
  batchSchnorr := a.batchSchnorr.getD ({} : Config).batchSchnorr
  cacheLimit := a.cacheLimit.getD ({} : Config).cacheLimit

def ofToml? (document : String) : Option Config := do
  let assignments ← assignments? document
  let assigned ← assignments.foldlM (fun (a : Assigned) (key, value) => a.assign? key value) {}
  return assigned.toConfig

/-- The document a configuration is written as. There is none for a limit that is no signed 64-bit
number. -/
def toToml? (c : Config) : Option String :=
  if c.cacheLimit.toNat < signedBound then
    some ("batch_schnorr = " ++ (if c.batchSchnorr then "true" else "false")
      ++ "\nsig_cache_max_entries = " ++ Nat.repr c.cacheLimit.toNat ++ "\n")
  else none

end Config

end SigValidation
