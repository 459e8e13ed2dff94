import SigValidation.Decimal.Binary64
import SigValidation.Text.Format
/-!
# JSON values and their text

Numbers without a fraction and an exponent are integers if they fit 64 bits, signed or unsigned; all
other numbers are doubles. The fields of an object stand in the order of their names, each name
once.

Values are written without blanks. Quotes, backslashes and controls in texts are escaped, all other
characters stand for themselves.
-/
namespace SigValidation

open Decimal

inductive Json where
  | null
  | boolean (b : Bool)
  | integer (n : Int)
  | double (x : Binary64)
  | text (content : String)
  | array (items : List Json)
  | object (fields : List (String × Json))

namespace Json

/-- Puts a field in its place; a field of the same name is replaced. -/
def insertField (name : String) (value : Json) : List (String × Json) → List (String × Json)
  | [] => [(name, value)]
  | (other, held) :: rest =>
    if name < other then (name, value) :: (other, held) :: rest
    else if name = other then (name, value) :: rest
    else (other, held) :: insertField name value rest

/-- The object of some fields; of two fields with one name, the later one counts. -/
def ofFields (fields : List (String × Json)) : Json :=
  .object (fields.foldl (fun sorted (name, value) => insertField name value sorted) [])

/-- The field of the given name, if the value is an object that has it. -/
def field? (json : Json) (name : String) : Option Json :=
  match json with
  | .object fields => fields.lookup name
  | _ => none

def escapeChar (c : Char) : String :=
  if c = '"' then "\\\""
  else if c = '\\' then "\\\\"
  else if c = '\n' then "\\n"
  else if c = '\r' then "\\r"
  else if c = '\t' then "\\t"
  else if c.toNat < 0x20 then
    let digits := Nat.toDigits 16 c.toNat
    "\\u" ++ String.ofList (List.replicate (4 - digits.length) '0' ++ digits)
  else String.singleton c

def writeText (content : String) : String :=
  "\"" ++ String.join (content.toList.map escapeChar) ++ "\""

mutual

def write : Json → String
  | null => "null"
  | boolean b => if b then "true" else "false"
  | integer n => Text.decimal n
  | double x => x.text
  | text content => writeText content
  | array items => "[" ++ String.intercalate "," (writeItems items) ++ "]"
  | object fields => "\x7b" ++ String.intercalate "," (writeFields fields) ++ "\x7d"

def writeItems : List Json → List String
  | [] => []
  | item :: rest => write item :: writeItems rest

def writeFields : List (String × Json) → List String
  | [] => []
  | (name, value) :: rest => (writeText name ++ ":" ++ write value) :: writeFields rest

end

end Json

end SigValidation
