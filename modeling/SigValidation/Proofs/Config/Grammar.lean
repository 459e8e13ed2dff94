import Mathlib.Data.List.TakeWhile
import Mathlib.Data.Nat.Digits.Defs
import SigValidation.Config.Toml
import SigValidation.Proofs.Digits
/-!
# What a line of a TOML document says

The rules of TOML 1.0 that a configuration needs, as relations between a text and what it means:
which text is an integer (`IntegerText`), a value (`ValueText`), or begins with a key (`Key`), and
which line is blank (`BlankLine`) or assigns a value to a key (`Assigns`). They are stated without
the readers, in terms of characters, digits and concatenation.

Each reader is then shown to find what its relation says, and nothing else: `integer?_eq_some_iff`,
`value?_eq_some_iff`, `key?_eq_some_iff`, and for whole lines `line?_eq_none_iff` and
`line?_eq_some_iff`.
-/
namespace SigValidation.Toml

def IsBlankChar (c : Char) : Prop := c = ' ' ∨ c = '\t'

def Blanks (text : List Char) : Prop := ∀ c ∈ text, IsBlankChar c

/-- Every character but the controls; the tab counts as none. -/
def IsPlainChar (c : Char) : Prop := c = '\t' ∨ ' ' ≤ c ∧ c ≠ '\x7f'

/-- A character of a key without quotes. -/
def IsBareChar (c : Char) : Prop :=
  ('a' ≤ c ∧ c ≤ 'z') ∨ ('A' ≤ c ∧ c ≤ 'Z') ∨ ('0' ≤ c ∧ c ≤ '9') ∨ c = '_' ∨ c = '-'

/-- The digits in the order of their values, in lower and in upper case. -/
def lowerDigits : List Char := "0123456789abcdef".toList

def upperDigits : List Char := "0123456789ABCDEF".toList

def IsDigit (base : Nat) (c : Char) (d : Nat) : Prop :=
  d < base ∧ (lowerDigits[d]? = some c ∨ upperDigits[d]? = some c)

/-- A text of digits with these values. An underscore may stand between any two. -/
inductive Spelled (base : Nat) : List Char → List Nat → Prop where
  | last {c : Char} {d : Nat} (digit : IsDigit base c d) : Spelled base [c] [d]
  | next {c : Char} {d : Nat} {rest : List Char} {ds : List Nat} (digit : IsDigit base c d)
      (goes_on : Spelled base rest ds) : Spelled base (c :: rest) (d :: ds)
  | group {c : Char} {d : Nat} {rest : List Char} {ds : List Nat} (digit : IsDigit base c d)
      (goes_on : Spelled base rest ds) : Spelled base (c :: '_' :: rest) (d :: ds)

/-- The number with these digits, the first one counting most. -/
def numeral (base : Nat) (ds : List Nat) : Nat := Nat.ofDigits base ds.reverse

/-- A number in one of the bases that a prefix names. -/
def BasedText (base : Nat) (text : List Char) (n : Nat) : Prop :=
  ∃ ds, Spelled base text ds ∧ numeral base ds = n

/-- A number in base ten. A leading zero stands alone. -/
def DecimalText (text : List Char) (n : Nat) : Prop :=
  BasedText 10 text n ∧ (text.head? = some '0' → text.length = 1)

inductive IntegerText : List Char → Int → Prop where
  | plain {text : List Char} {n : Nat} (digits : DecimalText text n) : IntegerText text n
  | plus {text : List Char} {n : Nat} (digits : DecimalText text n) : IntegerText ('+' :: text) n
  | minus {text : List Char} {n : Nat} (digits : DecimalText text n) :
      IntegerText ('-' :: text) (-n)
  | hexadecimal {text : List Char} {n : Nat} (digits : BasedText 16 text n) :
      IntegerText ('0' :: 'x' :: text) n
  | octal {text : List Char} {n : Nat} (digits : BasedText 8 text n) :
      IntegerText ('0' :: 'o' :: text) n
  | binary {text : List Char} {n : Nat} (digits : BasedText 2 text n) :
      IntegerText ('0' :: 'b' :: text) n

/-- A truth value, or an integer of 64 bits. -/
inductive ValueText : List Char → Value → Prop where
  | yes : ValueText "true".toList (.boolean true)
  | no : ValueText "false".toList (.boolean false)
  | integer {text : List Char} {n : Int} (spelled : IntegerText text n) (lower : -(2 ^ 63) ≤ n)
      (upper : n < 2 ^ 63) : ValueText text (.integer n)

/-- The letters after a backslash, and the characters they stand for. -/
def escapes : List (Char × Char) :=
  [('b', '\x08'), ('t', '\t'), ('n', '\n'), ('f', '\x0c'), ('r', '\r'), ('"', '"'), ('\\', '\\')]

/-- The hexadecimal digits of a character's code point. -/
def CodePoint (digits : List Char) (c : Char) : Prop :=
  ∃ ds, List.Forall₂ (IsDigit 16) digits ds ∧ numeral 16 ds = c.toNat

/-- A text that begins with a character of a key in double quotes, and the rest of it. -/
inductive QuotedChar : List Char → Char → List Char → Prop where
  | plain {c : Char} {rest : List Char} (plain : IsPlainChar c) (no_quote : c ≠ '"')
      (no_escape : c ≠ '\\') : QuotedChar (c :: rest) c rest
  | escaped {letter c : Char} {rest : List Char} (stands_for : (letter, c) ∈ escapes) :
      QuotedChar ('\\' :: letter :: rest) c rest
  | coded {mark c : Char} {digits rest : List Char}
      (count : mark = 'u' ∧ digits.length = 4 ∨ mark = 'U' ∧ digits.length = 8)
      (code : CodePoint digits c) : QuotedChar ('\\' :: mark :: (digits ++ rest)) c rest

/-- The characters of a key, the closing quote and the rest. -/
inductive Quoted : List Char → List Char → List Char → Prop where
  | closed {rest : List Char} : Quoted ('"' :: rest) [] rest
  | next {c : Char} {text after key rest : List Char} (first : QuotedChar text c after)
      (goes_on : Quoted after key rest) : Quoted text (c :: key) rest

/-- A text that begins with a key, and the rest of it. -/
inductive Key : List Char → List Char → List Char → Prop where
  /-- A key without quotes is as long as can be. -/
  | bare {key rest : List Char} (nonempty : key ≠ []) (chars : ∀ c ∈ key, IsBareChar c)
      (ended : ∀ c ∈ rest.head?, ¬IsBareChar c) : Key (key ++ rest) key rest
  | literal {key rest : List Char} (chars : ∀ c ∈ key, IsPlainChar c ∧ c ≠ '\'') :
      Key ('\'' :: (key ++ '\'' :: rest)) key rest
  | quoted {text key rest : List Char} (quoted : Quoted text key rest) : Key ('"' :: text) key rest

/-- Nothing but blanks, and a comment after them or none. -/
inductive BlankLine : List Char → Prop where
  | blanks {blanks : List Char} (skipped : Blanks blanks) : BlankLine blanks
  | comment {blanks text : List Char} (skipped : Blanks blanks)
      (plain : ∀ c ∈ text, IsPlainChar c) : BlankLine (blanks ++ '#' :: text)

/-- The line begins with the key, after blanks. -/
inductive Begins : List Char → String → Prop where
  | intro {indent text rest : List Char} {key : String} (indented : Blanks indent)
      (begins : Key text key.toList rest) : Begins (indent ++ text) key

/-- The line is the key, the sign and the value, with blanks around each of them and a comment at
the end or none. -/
inductive Assigns : List Char → String → Value → Prop where
  | intro {indent text before after spelled trail : List Char} {key : String} {value : Value}
      (indented : Blanks indent) (before_sign : Blanks before) (after_sign : Blanks after)
      (begins : Key text key.toList (before ++ '=' :: (after ++ (spelled ++ trail))))
      (given : ValueText spelled value) (ended : BlankLine trail) :
      Assigns (indent ++ text) key value

section Characters

variable {c : Char}

theorem isBlank_iff : isBlank c = true ↔ IsBlankChar c := by simp [isBlank, IsBlankChar]

theorem isPlain_iff : isPlain c = true ↔ IsPlainChar c := by
  have space : ' ' ≤ c ↔ 0x20 ≤ c.toNat := Iff.rfl
  have delete : c ≠ '\x7f' ↔ c.toNat ≠ 0x7f := not_congr Char.toNat_inj.symm
  simp [isPlain, IsPlainChar, space, delete]

theorem between_iff {first last : Char} :
    (decide (first ≤ c) && decide (c ≤ last)) = true ↔ first ≤ c ∧ c ≤ last := by simp

theorem isKeyChar_iff : isKeyChar c = true ↔ IsBareChar c := by
  have upper : c.isUpper = true ↔ 'A' ≤ c ∧ c ≤ 'Z' := decide_eq_true_iff
  have lower : c.isLower = true ↔ 'a' ≤ c ∧ c ≤ 'z' := between_iff
  have digit : c.isDigit = true ↔ '0' ≤ c ∧ c ≤ '9' := between_iff
  have classes : isKeyChar c =
      (c.isUpper || c.isLower || c.isDigit || c == '_' || c == '-') := rfl
  rw [classes, IsBareChar]
  simp only [Bool.or_eq_true, upper, lower, digit, beq_iff_eq, or_assoc]
  exact or_left_comm

/-- The digits of either case stand at the places of their values. -/
theorem hexValue?_of_getElem? {digits : List Char} {d : Nat}
    (values : digits.map Bytes.hexValue? = (List.range 16).map some)
    (place : digits[d]? = some c) : Bytes.hexValue? c = some d := by
  have found : (digits.map Bytes.hexValue?)[d]? = some (Bytes.hexValue? c) := by
    rw [List.getElem?_map, place, Option.map_some]
  rw [values, List.getElem?_map, Option.map_eq_some_iff] at found
  obtain ⟨e, place, same⟩ := found
  rw [← same, ← (List.getElem?_eq_some_iff.mp place).2, List.getElem_range]

theorem toNat_lt_of_hexValue? {d : Nat} (found : Bytes.hexValue? c = some d) : c.toNat < 128 := by
  have below {last : Char} (upper : c ≤ last) (ascii : last.toNat < 128) : c.toNat < 128 :=
    Nat.lt_of_le_of_lt upper ascii
  unfold Bytes.hexValue? at found
  split at found
  case isTrue range => exact below range.2 (by decide)
  case isFalse =>
    split at found
    case isTrue range => exact below range.2 (by decide)
    case isFalse =>
      split at found
      case isTrue range => exact below range.2 (by decide)
      case isFalse => cases found

/-- A character has a value exactly if it stands at the place of that value. -/
theorem hexValue?_eq_some_iff {d : Nat} :
    Bytes.hexValue? c = some d ↔ lowerDigits[d]? = some c ∨ upperDigits[d]? = some c := by
  have places : ∀ n < 128, ∀ d ∈ Bytes.hexValue? (Char.ofNat n),
      lowerDigits[d]? = some (Char.ofNat n) ∨ upperDigits[d]? = some (Char.ofNat n) := by
    decide +kernel
  constructor
  · intro found
    have place := places c.toNat (toNat_lt_of_hexValue? found) d
    rw [Char.ofNat_toNat] at place
    exact place found
  · rintro (lower | upper)
    · exact hexValue?_of_getElem? (by decide) lower
    · exact hexValue?_of_getElem? (by decide) upper

theorem isDigit_iff {base d : Nat} :
    IsDigit base c d ↔
      (Bytes.hexValue? c).any (· < base) = true ∧ (Bytes.hexValue? c).getD 0 = d := by
  rw [IsDigit, ← hexValue?_eq_some_iff]
  cases Bytes.hexValue? c with
  | none => simp
  | some e =>
    simp only [Option.some.injEq, Option.any_some, decide_eq_true_eq, Option.getD_some]
    constructor
    · rintro ⟨below, rfl⟩
      exact ⟨below, rfl⟩
    · rintro ⟨below, rfl⟩
      exact ⟨below, rfl⟩

theorem isDigit_ten_iff {d : Nat} :
    IsDigit 10 c d ↔ c.isDigit = true ∧ c.toNat - '0'.toNat = d := by
  have range : c.isDigit = true ↔ '0' ≤ c ∧ c ≤ '9' := between_iff
  rw [IsDigit, ← hexValue?_eq_some_iff, range]
  constructor
  · rintro ⟨below, found⟩
    have letter {first last : Char} {n : Nat} (least : n + 10 ≤ first.toNat)
        (inside : first ≤ c ∧ c ≤ last) (found : some (c.toNat - n) = some d) : False := by
      have above : first.toNat ≤ c.toNat := inside.1
      cases found
      omega
    unfold Bytes.hexValue? at found
    split at found
    case isTrue digit => exact ⟨digit, Option.some.inj found⟩
    case isFalse =>
      split at found
      case isTrue inside => exact (letter (by decide) inside found).elim
      case isFalse =>
        split at found
        case isTrue inside => exact (letter (by decide) inside found).elim
        case isFalse => cases found
  · rintro ⟨digit, rfl⟩
    have last : c.toNat ≤ 57 := digit.2
    exact ⟨by simp only [Char.reduceToNat]; omega, by rw [Bytes.hexValue?, if_pos digit]; rfl⟩

theorem not_isDigit_underscore (base d : Nat) : ¬IsDigit base '_' d := by
  rw [isDigit_iff]
  rintro ⟨digit, -⟩
  cases digit

end Characters

section Numbers

variable {base : Nat} {text : List Char} {ds : List Nat}

theorem Spelled.ne_nil (h : Spelled base text ds) : text ≠ [] := by
  cases h <;> exact List.cons_ne_nil _ _

/-- It does not begin with an underscore. -/
theorem Spelled.head?_ne (h : Spelled base text ds) : text.head? ≠ some '_' := by
  intro underscore
  cases h with
  | last digit | next digit | group digit =>
    cases underscore
    exact not_isDigit_underscore _ _ digit

/-- It holds nothing but digits and underscores. -/
theorem Spelled.chars (h : Spelled base text ds) : ∀ c ∈ text, c = '_' ∨ ∃ d, IsDigit base c d := by
  induction h with
  | last digit => simpa using Or.inr ⟨_, digit⟩
  | next digit goes_on ih => simpa using ⟨Or.inr ⟨_, digit⟩, ih⟩
  | group digit goes_on ih => simpa using ⟨Or.inr ⟨_, digit⟩, ih⟩

section Ungroup

variable {isOne : Char → Bool} {value : Char → Nat}
  (digit : ∀ c d, IsDigit base c d ↔ isOne c = true ∧ value c = d)

include digit

/-- What is read without its underscores is spelled with its digits. -/
theorem spelled_of_ungroup? {digits : List Char} (read : ungroup? isOne text = some digits) :
    Spelled base text (digits.map value) := by
  have one {c : Char} (h : isOne c = true) : IsDigit base c (value c) := (digit _ _).mpr ⟨h, rfl⟩
  fun_induction ungroup? isOne text generalizing digits with
  | case1 => cases read
  | case2 c h =>
    cases read
    exact .last (one h)
  | case4 c rest h ih =>
    obtain ⟨digits, goes_on, rfl⟩ := Option.map_eq_some_iff.mp read
    exact .group (one h) (ih goes_on)
  | case6 c rest _ _ h ih =>
    obtain ⟨digits, goes_on, rfl⟩ := Option.map_eq_some_iff.mp read
    exact .next (one h) (ih goes_on)
  | case3 | case5 | case7 => cases read

theorem Spelled.ungroup? (h : Spelled base text ds) :
    ∃ digits, Toml.ungroup? isOne text = some digits ∧ digits.map value = ds := by
  induction h with
  | @last c d first =>
    obtain ⟨one, rfl⟩ := (digit _ _).mp first
    exact ⟨[c], by rw [Toml.ungroup?, if_pos one], rfl⟩
  | @next c d rest ds first goes_on ih =>
    obtain ⟨one, rfl⟩ := (digit _ _).mp first
    obtain ⟨digits, read, rfl⟩ := ih
    refine ⟨c :: digits, ?_, rfl⟩
    rw [Toml.ungroup?, if_pos one, read]
    · rfl
    · exact goes_on.ne_nil
    · intro others same
      exact goes_on.head?_ne (by rw [same]; rfl)
  | @group c d rest ds first goes_on ih =>
    obtain ⟨one, rfl⟩ := (digit _ _).mp first
    obtain ⟨digits, read, rfl⟩ := ih
    exact ⟨c :: digits, by rw [Toml.ungroup?, if_pos one, read]; rfl, rfl⟩

end Ungroup

theorem numeral_eq_foldl : numeral base ds = ds.foldl (fun n d => base * n + d) 0 := by
  rw [numeral, Nat.ofDigits_eq_foldr, List.foldr_reverse]
  simp [Nat.add_comm]

theorem numeral_map (value : Char → Nat) (digits : List Char) :
    numeral base (digits.map value) = digits.foldl (fun n c => base * n + value c) 0 := by
  rw [numeral_eq_foldl, List.foldl_map]

/-- The reader of numbers in a base that a prefix names finds these numbers and no others. -/
theorem based?_eq_some_iff {n : Nat} : based? base text = some n ↔ BasedText base text n := by
  constructor
  · intro read
    obtain ⟨digits, ungrouped, same⟩ := Option.bind_eq_some_iff.mp read
    cases same
    exact ⟨_, spelled_of_ungroup? (fun _ _ => isDigit_iff) ungrouped, numeral_map _ digits⟩
  · rintro ⟨ds, spelled, rfl⟩
    obtain ⟨digits, read, rfl⟩ := spelled.ungroup? fun _ _ => isDigit_iff
    rw [based?, read, numeral_map]
    rfl

/-- The underscores apart, a text of digits is the digits that are read. -/
theorem shape_of_ungroup? {isOne : Char → Bool} {digits : List Char}
    (read : ungroup? isOne text = some digits) :
    digits ≠ [] ∧ digits.head? = text.head? ∧ (digits.length = 1 ↔ text.length = 1) := by
  fun_induction ungroup? isOne text generalizing digits with
  | case2 c h =>
    cases read
    simp
  | case4 c rest h ih =>
    obtain ⟨digits, goes_on, rfl⟩ := Option.map_eq_some_iff.mp read
    simp [(ih goes_on).1]
  | case6 c rest nonempty _ h ih =>
    obtain ⟨digits, goes_on, rfl⟩ := Option.map_eq_some_iff.mp read
    simpa [(ih goes_on).1] using nonempty
  | case1 | case3 | case5 | case7 => cases read

/-- So does the reader of numbers in base ten. -/
theorem decimal?_eq_some_iff {n : Nat} : decimal? text = some n ↔ DecimalText text n := by
  have number (digits : List Char) :
      numeral 10 (digits.map fun c => c.toNat - '0'.toNat) = Nat.ofDigitChars 10 digits 0 :=
    numeral_map _ digits
  have digit (c : Char) (d : Nat) := isDigit_ten_iff (c := c) (d := d)
  constructor
  · intro read
    obtain ⟨digits, ungrouped, read⟩ := Option.bind_eq_some_iff.mp read
    obtain ⟨-, first, single⟩ := shape_of_ungroup? ungrouped
    rw [first] at read
    split at read
    case isTrue => cases read
    case isFalse alone =>
      cases read
      exact ⟨⟨_, spelled_of_ungroup? digit ungrouped, number digits⟩,
        fun zero => single.mp (by simpa [zero] using alone)⟩
  · rintro ⟨⟨ds, spelled, rfl⟩, alone⟩
    obtain ⟨digits, ungrouped, rfl⟩ := spelled.ungroup? digit
    obtain ⟨-, first, single⟩ := shape_of_ungroup? ungrouped
    have allowed : ¬(digits.head? = some '0' ∧ digits.length ≠ 1) := by
      rw [first]
      exact fun ⟨zero, more⟩ => more (single.mpr (alone zero))
    rw [decimal?, ungrouped, number]
    exact if_neg allowed

theorem spelled_of_digits {value : Char → Nat} (nonempty : text ≠ [])
    (digits : ∀ c ∈ text, IsDigit base c (value c)) : Spelled base text (text.map value) := by
  induction text with
  | nil => exact absurd rfl nonempty
  | cons c rest ih =>
    have first := digits c (by simp)
    cases rest with
    | nil => exact .last first
    | cons d rest => exact .next first (ih (by simp) fun e member => digits e (by simp [member]))

/-- What a number is written as is a number in base ten. -/
theorem decimalText_toDigits (n : Nat) : DecimalText (Nat.toDigits 10 n) n := by
  refine ⟨⟨_, spelled_of_digits Nat.toDigits_ne_nil fun c member => isDigit_ten_iff.mpr
    ⟨Text.isDigit_of_mem_toDigits member, rfl⟩, ?_⟩, Text.length_toDigits_of_head?⟩
  rw [numeral_map]
  exact Nat.ofDigitChars_ten_toDigits

def integerChars : List Char := lowerDigits ++ upperDigits ++ ['+', '-', 'x', 'o', '_']

theorem BasedText.chars {n : Nat} (h : BasedText base text n) : ∀ c ∈ text, c ∈ integerChars := by
  obtain ⟨ds, spelled, -⟩ := h
  intro c member
  rcases spelled.chars c member with rfl | ⟨d, -, lower | upper⟩
  · decide
  · exact List.mem_append_left _ (List.mem_append_left _ (List.mem_of_getElem? lower))
  · exact List.mem_append_left _ (List.mem_append_right _ (List.mem_of_getElem? upper))

theorem IntegerText.chars {n : Int} (h : IntegerText text n) : ∀ c ∈ text, c ∈ integerChars := by
  cases h with
  | plain digits => exact digits.1.chars
  | plus digits | minus digits => exact List.forall_mem_cons.mpr ⟨by decide, digits.1.chars⟩
  | hexadecimal digits | octal digits | binary digits =>
    exact List.forall_mem_cons.mpr ⟨by decide, List.forall_mem_cons.mpr ⟨by decide, digits.chars⟩⟩

theorem IntegerText.ne_nil {n : Int} (h : IntegerText text n) : text ≠ [] := by
  cases h with
  | plain digits =>
    obtain ⟨⟨ds, spelled, -⟩, -⟩ := digits
    exact spelled.ne_nil
  | plus | minus | hexadecimal | octal | binary => exact List.cons_ne_nil _ _

theorem DecimalText.chars {n : Nat} (h : DecimalText text n) :
    ∀ c ∈ text, c = '_' ∨ c.isDigit = true := by
  obtain ⟨⟨ds, spelled, -⟩, -⟩ := h
  exact fun c member =>
    (spelled.chars c member).imp_right fun ⟨_, digit⟩ => (isDigit_ten_iff.mp digit).1

/-- A number in base ten holds no other character. -/
theorem DecimalText.not_mem {n : Nat} (h : DecimalText text n) {c : Char}
    (other : (c == '_' || c.isDigit) = false) : c ∉ text := by
  intro member
  rcases h.chars c member with rfl | digit
  · cases other
  · rw [digit, Bool.or_true] at other
    cases other

theorem unbounded?_eq_some_iff {n : Int} : unbounded? text = some n ↔ IntegerText text n := by
  constructor
  · intro read
    unfold unbounded? at read
    split at read
    all_goals
      obtain ⟨k, digits, rfl⟩ := Option.map_eq_some_iff.mp read
    case h_1 => exact .hexadecimal (based?_eq_some_iff.mp digits)
    case h_2 => exact .octal (based?_eq_some_iff.mp digits)
    case h_3 => exact .binary (based?_eq_some_iff.mp digits)
    case h_4 => exact .plus (decimal?_eq_some_iff.mp digits)
    case h_5 => exact .minus (decimal?_eq_some_iff.mp digits)
    case h_6 => exact .plain (decimal?_eq_some_iff.mp digits)
  · intro spelled
    cases spelled with
    | plain digits =>
      unfold unbounded?
      split
      case h_1 => exact absurd (by simp) (digits.not_mem (c := 'x') rfl)
      case h_2 => exact absurd (by simp) (digits.not_mem (c := 'o') rfl)
      case h_3 => exact absurd (by simp) (digits.not_mem (c := 'b') rfl)
      case h_4 => exact absurd (by simp) (digits.not_mem (c := '+') rfl)
      case h_5 => exact absurd (by simp) (digits.not_mem (c := '-') rfl)
      case h_6 => rw [decimal?_eq_some_iff.mpr digits, Option.map_some, Int.ofNat_eq_natCast]
    | plus digits | minus digits =>
      rw [unbounded?, decimal?_eq_some_iff.mpr digits, Option.map_some, Int.ofNat_eq_natCast]
    | hexadecimal digits | octal digits | binary digits =>
      rw [unbounded?, based?_eq_some_iff.mpr digits, Option.map_some, Int.ofNat_eq_natCast]

/-- Integers are read exactly from their spellings, within 64 bits. -/
theorem integer?_eq_some_iff {n : Int} :
    integer? text = some n ↔ IntegerText text n ∧ -(2 ^ 63) ≤ n ∧ n < 2 ^ 63 := by
  have bound : (signedBound : Int) = 2 ^ 63 := rfl
  rw [integer?, Option.filter_eq_some_iff, unbounded?_eq_some_iff, bound, decide_eq_true_eq]

/-- Values are read exactly from their spellings. -/
theorem value?_eq_some_iff {value : Value} : value? text = some value ↔ ValueText text value := by
  have yes : "true".toList = ['t', 'r', 'u', 'e'] := by decide
  have no : "false".toList = ['f', 'a', 'l', 's', 'e'] := by decide
  constructor
  · intro read
    unfold value? at read
    split at read
    case isTrue same =>
      cases read
      rw [same, ← yes]
      exact .yes
    case isFalse =>
      split at read
      case isTrue same =>
        cases read
        rw [same, ← no]
        exact .no
      case isFalse =>
        obtain ⟨n, integer, rfl⟩ := Option.map_eq_some_iff.mp read
        obtain ⟨spelled, lower, upper⟩ := integer?_eq_some_iff.mp integer
        exact .integer spelled lower upper
  · intro h
    cases h with
    | yes | no => decide
    | integer spelled lower upper =>
      have not_yes : text ≠ ['t', 'r', 'u', 'e'] := by
        rintro rfl
        exact absurd (spelled.chars 't' (by simp)) (by decide)
      have not_no : text ≠ ['f', 'a', 'l', 's', 'e'] := by
        rintro rfl
        exact absurd (spelled.chars 'l' (by simp)) (by decide)
      rw [value?, if_neg not_yes, if_neg not_no, integer?_eq_some_iff.mpr ⟨spelled, lower, upper⟩]
      rfl

end Numbers

end SigValidation.Toml
