import SigValidation.Routine
/-!
# Lines, and padding of text and numbers

A line ends with a line feed, or with a carriage return and a line feed; a carriage return alone is
a character like any other.

A format says how wide a text has to be, what fills it up, where the text stands, and how numbers
are signed and based. Numbers stand to the right by default and other text to the left. Zero padding
goes between the sign and the digits, whatever the fill and the alignment, and is for numbers only.
-/
namespace SigValidation.Text

/-- The lines of a text, without what ends them. What follows the last line feed is a line too, if
an empty one. -/
def lines : List Char → List (List Char)
  | [] => [[]]
  | '\n' :: rest => [] :: lines rest
  | '\r' :: '\n' :: rest => [] :: lines rest
  | c :: rest =>
    match lines rest with
    | [] => [[c]]
    | line :: others => (c :: line) :: others

/-- A line read back from a text that goes on behind it. -/
theorem lines_append_lineFeed {line : List Char} (rest : List Char)
    (plain : ∀ c ∈ line, c ≠ '\n' ∧ c ≠ '\r') :
    lines (line ++ '\n' :: rest) = line :: lines rest := by
  induction line with
  | nil => simp [lines]
  | cons c line ih =>
    obtain ⟨noFeed, noReturn⟩ := plain c (by simp)
    have ih := ih fun d hd => plain d (by simp [hd])
    rw [List.cons_append, lines, ih]
    · exact fun h => noFeed h
    · exact fun _ h _ => noReturn h

inductive Alignment where
  | left | center | right
  deriving DecidableEq, Repr

/-- The base that numbers are written in inside a debug text. -/
inductive Radix where
  | decimal | lowerHex | upperHex
  deriving DecidableEq, Repr

structure Format where
  fill : Char := ' '
  alignment : Option Alignment := none
  plus : Bool := false
  alternate : Bool := false
  zeroPad : Bool := false
  width : Option Nat := none
  precision : Option Nat := none
  radix : Radix := .decimal
  debug : Bool := false
  deriving DecidableEq, Repr

def decimal (n : Int) : String :=
  if n < 0 then "-" ++ Nat.repr n.natAbs else Nat.repr n.natAbs

namespace Format

def alignment? : Char → Option Alignment
  | '<' => some .left
  | '^' => some .center
  | '>' => some .right
  | _ => none

/-- Reads an alignment, with a fill character in front of it or not. -/
def readAlignment (f : Format) : List Char → Format × List Char
  | [] => (f, [])
  | [a] =>
    match alignment? a with
    | some alignment => ({ f with alignment }, [])
    | none => (f, [a])
  | c :: a :: rest =>
    match alignment? a with
    | some alignment => ({ f with fill := c, alignment }, rest)
    | none =>
      match alignment? c with
      | some alignment => ({ f with alignment }, a :: rest)
      | none => (f, c :: a :: rest)

/-- Reads a count: the letter `w` stands for the given width, digits for themselves. -/
def readCount (width : Nat) (template : List Char) : Option Nat × List Char :=
  match template with
  | 'w' :: rest => (some width, rest)
  | _ =>
    let digits := template.takeWhile Char.isDigit
    if digits.isEmpty then (none, template)
    else (some (Nat.ofDigitChars 10 digits 0), template.dropWhile Char.isDigit)

/-- Reads the last part of a template: display or debug text, and the radix of the latter. -/
def readKind? (f : Format) : List Char → Option Format
  | [] => some f
  | ['?'] => some { f with debug := true }
  | ['x', '?'] => some { f with debug := true, radix := .lowerHex }
  | ['X', '?'] => some { f with debug := true, radix := .upperHex }
  | _ => none

/-- Reads a template: fill and alignment, sign, `#`, `0`, width, precision, kind. Every part may be
missing. -/
def ofTemplate? (template : String) (width : Nat) : Option Format :=
  let (f, rest) := readAlignment {} template.toList
  let (f, rest) :=
    match rest with
    | '+' :: rest => ({ f with plus := true }, rest)
    | '-' :: rest => (f, rest)
    | _ => (f, rest)
  let (f, rest) :=
    match rest with
    | '#' :: rest => ({ f with alternate := true }, rest)
    | _ => (f, rest)
  let (f, rest) :=
    match rest with
    | '0' :: rest => ({ f with zeroPad := true }, rest)
    | _ => (f, rest)
  let (count, rest) := readCount width rest
  let f := { f with width := count }
  match rest with
  | '.' :: rest =>
    let (count, rest) := readCount width rest
    readKind? { f with precision := count } rest
  | _ => readKind? f rest

/-- The greatest width or precision. -/
def maxCount : Nat := 65535

/-- The format itself, unless its width or its precision is too great. -/
def withinLimits (f : Format) : Except Panic Format :=
  if f.width.getD 0 ≤ maxCount ∧ f.precision.getD 0 ≤ maxCount then .ok f else .error .formatTooWide

/-- Fills a text up by the missing number of characters. -/
def fillUp (f : Format) (standard : Alignment) (missing : Nat) (text : String) : String :=
  let before :=
    match f.alignment.getD standard with
    | .left => 0
    | .center => missing / 2
    | .right => missing
  let run (n : Nat) := String.ofList (List.replicate n f.fill)
  run before ++ text ++ run (missing - before)

/-- A text cut to the precision and filled up to the width. -/
def padText (f : Format) (text : String) : String :=
  let text :=
    match f.precision with
    | some most => String.ofList (text.toList.take most)
    | none => text
  f.fillUp .left (f.width.getD 0 - text.length) text

/-- The digits of a number with its sign and, in the alternate form, the mark of its base, filled up
to the width. -/
def padNumber (f : Format) (negative : Bool) (mark digits : String) : String :=
  let lead :=
    (if negative then "-" else if f.plus then "+" else "") ++ (if f.alternate then mark else "")
  let missing := f.width.getD 0 - (lead.length + digits.length)
  if f.zeroPad then lead ++ String.ofList (List.replicate missing '0') ++ digits
  else f.fillUp .right missing (lead ++ digits)

def number (f : Format) (n : Int) : String := f.padNumber (n < 0) "" (Nat.repr n.natAbs)

/-- A number in the base of debug text. In base sixteen, a number below zero is written modulo
`2 ^ 64`. -/
def debugNumber (f : Format) (n : Int) : String :=
  let hex := String.ofList (Nat.toDigits 16 (n % UInt64.size).toNat)
  match f.radix with
  | .decimal => f.number n
  | .lowerHex => f.padNumber false "0x" hex
  | .upperHex => f.padNumber false "0x" hex.toUpper

end Format

end SigValidation.Text
