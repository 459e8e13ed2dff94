import SigValidation.Amount
import SigValidation.Proofs.Digits
/-!
# One range for all amounts

An amount is made from a signed or an unsigned number, or from eight bytes. Each of these stands for
an integer (`Source.number`). All of them come down to the check of a signed number, apart from
unsigned numbers that are none (`Source.routed`): an unsigned number that fits is the same number
signed, and eight bytes are a signed number in two's complement. So one range holds for all of them,
and the integer is found in the amount or in the error, whichever it is.
-/
namespace SigValidation

/-- The number that eight bytes stand for in two's complement, least significant byte first. -/
def Bytes.toSignedLE (bytes : Bytes) : Int :=
  if toNatLE bytes < signedBound then toNatLE bytes else toNatLE bytes - 2 * signedBound

/-- The number did not even fit a signed one. -/
def AmountError.isTooLarge : AmountError → Bool
  | tooLarge _ => true
  | outOfRange _ => false

namespace Bytes

theorem toNatLE_lt_of_eight {bytes : Bytes} (eight : bytes.length = 8) :
    toNatLE bytes < 2 * signedBound := by
  have below := toNatLE_lt bytes
  rw [eight] at below
  exact below

/-- Reading eight bytes and wrapping the number around is reading them in two's complement. -/
theorem toInt_ofNat_toNatLE {bytes : Bytes} (eight : bytes.length = 8) :
    (Int64.ofNat (toNatLE bytes)).toInt = toSignedLE bytes := by
  have below := toNatLE_lt_of_eight eight
  have size : Int64.size = 2 * signedBound := rfl
  have half : ((2 * signedBound : Nat) + 1 : Int) / 2 = signedBound := rfl
  rw [Int64.toInt_ofNat', Int.bmod_def, size, half,
    Int.emod_eq_of_lt (Int.natCast_nonneg _) (Int.ofNat_lt.mpr below), toSignedLE]
  simp only [Int.ofNat_lt]
  rfl

end Bytes

namespace Amount

variable {a b : Amount} {value : Int64}

theorem maxMoney_lt_signedBound : maxMoney < signedBound := by decide

theorem satoshis_lt (a : Amount) : a.satoshis < signedBound :=
  Nat.lt_of_le_of_lt a.le_maxMoney maxMoney_lt_signedBound

theorem eq_of_satoshis (same : (a.satoshis : Int) = b.satoshis) : a = b := by
  cases a
  cases b
  cases Int.ofNat_inj.mp same
  rfl

theorem ofInt64_of_mem (within : 0 ≤ value.toInt ∧ value.toInt ≤ maxMoney) :
    ∃ a, ofInt64 value = .ok a ∧ (a.satoshis : Int) = value.toInt :=
  ⟨_, dif_pos within, Int.toNat_of_nonneg within.1⟩

theorem ofInt64_of_not_mem (outside : ¬(0 ≤ value.toInt ∧ value.toInt ≤ maxMoney)) :
    ofInt64 value = .error (.outOfRange value) :=
  dif_neg outside

theorem satoshis_mem (a : Amount) : 0 ≤ (a.satoshis : Int) ∧ (a.satoshis : Int) ≤ maxMoney :=
  ⟨Int.natCast_nonneg _, Int.ofNat_le.mpr a.le_maxMoney⟩

/-- An amount is made exactly of its own number. -/
theorem ofInt64_eq_ok_iff : ofInt64 value = .ok a ↔ (a.satoshis : Int) = value.toInt := by
  by_cases within : 0 ≤ value.toInt ∧ value.toInt ≤ maxMoney
  · obtain ⟨made, accepted, number⟩ := ofInt64_of_mem within
    rw [accepted, ← number]
    constructor
    · rintro ⟨⟩
      rfl
    · intro same
      rw [eq_of_satoshis same]
  · rw [ofInt64_of_not_mem within]
    refine iff_of_false nofun fun same => within ?_
    rw [← same]
    exact a.satoshis_mem

theorem ofInt64_eq_error_iff {e : AmountError} :
    ofInt64 value = .error e ↔
      ¬(0 ≤ value.toInt ∧ value.toInt ≤ maxMoney) ∧ e = .outOfRange value := by
  by_cases within : 0 ≤ value.toInt ∧ value.toInt ≤ maxMoney
  · obtain ⟨made, accepted, _⟩ := ofInt64_of_mem within
    rw [accepted]
    exact iff_of_false nofun fun refused => refused.1 within
  · rw [ofInt64_of_not_mem within]
    constructor
    · rintro ⟨⟩
      exact ⟨within, rfl⟩
    · rintro ⟨_, rfl⟩
      rfl

/-- What an amount can be made from. -/
inductive Source where
  | signed (value : Int64)
  | unsigned (value : UInt64)
  | bytes (content : Bytes) (eight : content.length = 8)

namespace Source

def number : Source → Int
  | signed value => value.toInt
  | unsigned value => value.toNat
  | bytes content _ => content.toSignedLE

def make : Source → Except AmountError Amount
  | signed value => ofInt64 value
  | unsigned value => ofUInt64 value
  | bytes content _ => ofBytes content

inductive Routed (s : Source) : Prop where
  | signed (value : Int64) (same : value.toInt = s.number) (made : s.make = ofInt64 value)
  | tooLarge (value : UInt64) (is_unsigned : s = .unsigned value)
      (large : signedBound ≤ value.toNat)
      (refused : s.make = .error (.tooLarge value))

/-- Every source goes one of the two ways. -/
theorem routed (s : Source) : Routed s := by
  cases s with
  | signed value => exact .signed value rfl rfl
  | unsigned value =>
    by_cases fits : value.toNat < signedBound
    · exact .signed _ (Int64.toInt_ofNat_of_lt fits) (if_pos fits)
    · exact .tooLarge value rfl (Nat.le_of_not_lt fits) (if_neg fits)
  | bytes content eight => exact .signed _ (Bytes.toInt_ofNat_toNatLE eight) rfl

structure Sound (s : Source) : Prop where
  /-- The amount holds the integer, -/
  ok_iff : ∀ a, s.make = .ok a ↔ (a.satoshis : Int) = s.number
  /-- and there is one exactly if the integer is in range. -/
  exists_iff : (∃ a, s.make = .ok a) ↔ 0 ≤ s.number ∧ s.number ≤ maxMoney
  invalidValue_eq : ∀ e, s.make = .error e → e.invalidValue = s.number
  isTooLarge_iff : ∀ e, s.make = .error e →
    (e.isTooLarge = true ↔ ∃ value, s = .unsigned value ∧ Int64.maxValue.toInt < value.toNat)

/-- The numbers of amounts are those of the valid range. -/
theorem exists_satoshis_iff {n : Int} :
    (∃ a : Amount, (a.satoshis : Int) = n) ↔ 0 ≤ n ∧ n ≤ maxMoney := by
  constructor
  · rintro ⟨a, rfl⟩
    exact a.satoshis_mem
  · rintro ⟨nonneg, upper⟩
    exact ⟨⟨n.toNat, Int.toNat_le.mpr upper⟩, Int.toNat_of_nonneg nonneg⟩

/-- Every source gives its number, or is refused with it. -/
theorem sound (s : Source) : s.Sound := by
  have ok_iff : ∀ a, s.make = .ok a ↔ (a.satoshis : Int) = s.number := by
    intro a
    cases s.routed with
    | signed value same made => rw [made, ofInt64_eq_ok_iff, same]
    | tooLarge value is_unsigned large refused =>
      rw [refused, is_unsigned, number, Int.ofNat_inj]
      exact iff_of_false nofun (Nat.ne_of_lt (Nat.lt_of_lt_of_le a.satoshis_lt large))
  constructor
  case ok_iff => exact ok_iff
  case exists_iff => simp only [ok_iff, exists_satoshis_iff]
  case invalidValue_eq =>
    intro e failed
    cases s.routed with
    | signed value same made =>
      rw [made, ofInt64_eq_error_iff] at failed
      rw [failed.2, ← same]
      rfl
    | tooLarge value is_unsigned large refused =>
      cases refused.symm.trans failed
      rw [is_unsigned]
      rfl
  case isTooLarge_iff =>
    intro e failed
    cases s.routed with
    | signed value same made =>
      rw [made, ofInt64_eq_error_iff] at failed
      rw [failed.2]
      refine iff_of_false Bool.false_ne_true ?_
      rintro ⟨other, rfl, large⟩
      have below := value.toInt_le
      rw [same] at below
      exact absurd large (Int.not_lt.mpr below)
    | tooLarge value is_unsigned large refused =>
      cases refused.symm.trans failed
      exact iff_of_true rfl ⟨value, is_unsigned, Int.ofNat_lt.mpr large⟩

end Source

/-- The comparison of signed numbers is that of the integers. -/
theorem trusted_iff :
    value ≤ Int64.ofNat maxMoney ∧ 0 ≤ value ↔ 0 ≤ value.toInt ∧ value.toInt ≤ maxMoney := by
  rw [Int64.le_iff_toInt_le, Int64.le_iff_toInt_le,
    Int64.toInt_ofNat_of_lt maxMoney_lt_signedBound, and_comm]
  rfl

/-- A number that is trusted is checked as any other one, and answered alike or with a panic. -/
theorem ofTrusted_eq :
    ofTrusted value = (ofInt64 value).mapError fun _ => Panic.amountOutOfRange := by
  by_cases within : 0 ≤ value.toInt ∧ value.toInt ≤ maxMoney
  · rw [ofTrusted, dif_pos (trusted_iff.mpr within), ofInt64, dif_pos within]
    rfl
  · rw [ofTrusted, dif_neg (mt trusted_iff.mp within), ofInt64_of_not_mem within]
    rfl

theorem ofTrusted_eq_ok_iff : ofTrusted value = .ok a ↔ (a.satoshis : Int) = value.toInt := by
  rw [← ofInt64_eq_ok_iff, ofTrusted_eq]
  cases ofInt64 value <;> simp [Except.mapError]

theorem ofTrusted_eq_error_iff :
    ofTrusted value = .error .amountOutOfRange ↔ ¬(0 ≤ value.toInt ∧ value.toInt ≤ maxMoney) := by
  rw [ofTrusted, ← trusted_iff]
  split <;> simp [*]

/-- What can be had back from an amount. -/
structure Faithful (a : Amount) : Prop where
  ofBytes_toBytes : ofBytes a.toBytes = .ok a
  toInt_toInt64 : a.toInt64.toInt = a.satoshis
  /-- The unsigned number is the signed one, which is never negative. -/
  unsigned?_toInt64 : unsigned? a.toInt64 = some a.toUInt64
  /-- So whoever relies on that is never mistaken. -/
  expectUInt64_eq : a.expectUInt64 = .ok a.toUInt64
  toNat_toUInt64 : a.toUInt64.toNat = a.satoshis
  compare_eq : ∀ b, compare a b = compare a.toInt64.toInt b.toInt64.toInt

theorem toInt_toInt64 (a : Amount) : a.toInt64.toInt = a.satoshis :=
  Int64.toInt_ofNat_of_lt a.satoshis_lt

theorem toNatLE_toBytes (a : Amount) : Bytes.toNatLE a.toBytes = a.satoshis := by
  rw [toBytes, Bytes.toNatLE_ofNatLE]
  exact Nat.mod_eq_of_lt (Nat.lt_trans a.satoshis_lt (by decide))

/-- The number of an amount is never negative, so that its conversion never panics. -/
theorem unsigned?_toInt64 (a : Amount) : unsigned? a.toInt64 = some a.toUInt64 := by
  rw [unsigned?, toInt_toInt64, if_pos (Int.natCast_nonneg _), Int.toNat_natCast]
  rfl

/-- An amount gives back its number in every form. -/
theorem faithful (a : Amount) : Faithful a where
  ofBytes_toBytes := by
    rw [ofBytes, toNatLE_toBytes]
    exact ofInt64_eq_ok_iff.mpr a.toInt_toInt64.symm
  toInt_toInt64 := a.toInt_toInt64
  unsigned?_toInt64 := a.unsigned?_toInt64
  expectUInt64_eq := by rw [expectUInt64, unsigned?_toInt64]
  toNat_toUInt64 := by
    rw [toUInt64, UInt64.toNat_ofNat']
    exact Nat.mod_eq_of_lt (Nat.lt_trans a.satoshis_lt (by decide))
  compare_eq b := by
    rw [toInt_toInt64, toInt_toInt64]
    change compare a.satoshis b.satoshis = _
    simp only [compare, compareOfLessAndEq, Int.ofNat_lt, Int.ofNat_inj]

/-- Eight bytes from which an amount comes are the bytes that are written for it. -/
theorem toBytes_of_ofBytes {bytes : Bytes} (eight : bytes.length = 8)
    (made : ofBytes bytes = .ok a) : a.toBytes = bytes := by
  have number : (a.satoshis : Int) = bytes.toSignedLE :=
    ((Source.bytes bytes eight).sound.ok_iff a).mp made
  have below := Bytes.toNatLE_lt_of_eight eight
  have same : a.satoshis = Bytes.toNatLE bytes := by
    rw [Bytes.toSignedLE] at number
    split at number <;> omega
  rw [toBytes, same, ← eight]
  exact Bytes.ofNatLE_toNatLE bytes

/-- For every source of an amount: it gives one exactly if its integer is in range, and then that
integer, and else the integer is in the error. A caller who vouches for the range is served alike,
or panics. Every amount comes back from its bytes, and eight bytes from the amount that they give;
as a number, signed or unsigned, an amount is the same integer, and amounts compare as their
integers do. -/
theorem sources_agree :
    (∀ s : Source, s.Sound) ∧
      (∀ value, (∀ a, ofTrusted value = .ok a ↔ (a.satoshis : Int) = value.toInt) ∧
        (ofTrusted value = .error .amountOutOfRange ↔
          ¬(0 ≤ value.toInt ∧ value.toInt ≤ maxMoney))) ∧
      (∀ a, Faithful a) ∧ ∀ bytes a, bytes.length = 8 → ofBytes bytes = .ok a → a.toBytes = bytes :=
  ⟨Source.sound, fun _ => ⟨fun _ => ofTrusted_eq_ok_iff, ofTrusted_eq_error_iff⟩,
    faithful, fun _ _ => toBytes_of_ofBytes⟩

/-- The least number that is none for signed numbers, the bytes of minus one, and the bytes of all
the money there can be. -/
theorem sources_agree_edges :
    let large : UInt64 := 0x8000000000000000
    let most : Bytes := Bytes.ofNatLE 8 maxMoney
    let all : Amount := ⟨maxMoney, Nat.le_refl _⟩
    ofUInt64 large = .error (.tooLarge large) ∧
      (AmountError.tooLarge large).invalidValue = 0x8000000000000000 ∧
      ofBytes (List.replicate 8 0xff) = .error (.outOfRange (-1)) ∧
      (AmountError.outOfRange (-1)).invalidValue = -1 ∧
      most.length = 8 ∧ ofBytes most = .ok all ∧ all.toBytes = most := by
  intro large most all
  have refused : (Source.unsigned large).make = .error (.tooLarge large) := by decide
  have negative : (Source.bytes (List.replicate 8 0xff) rfl).make = .error (.outOfRange (-1)) := by
    decide
  have eight : most.length = 8 := by decide
  have made : ofBytes most = .ok all := by decide
  obtain ⟨sound, _, _, written⟩ := sources_agree
  have large_eq := (sound _).invalidValue_eq _ refused
  have negative_eq := (sound _).invalidValue_eq _ negative
  rw [show (Source.unsigned large).number = 0x8000000000000000 by decide] at large_eq
  rw [show (Source.bytes (List.replicate 8 0xff) rfl).number = -1 by decide] at negative_eq
  exact ⟨refused, large_eq, negative, negative_eq, eight, made, written most all eight made⟩

end Amount

end SigValidation
