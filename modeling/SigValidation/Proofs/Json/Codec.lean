import Mathlib.Data.List.Forall2
import Mathlib.Data.List.Induction
import SigValidation.Json.Codec
import SigValidation.Proofs.Amount.Sources
import SigValidation.Proofs.Json.Document
/-!
# What JSON values mean

For each type that has a JSON form, a relation says which JSON values mean which of its values, in
terms of integers, lengths and names and without the readers. The readers accept exactly these, so a
wrong part anywhere makes the whole be refused, and every value is among the meanings of what it is
written as, also after that was made a document and read.
-/
namespace SigValidation

namespace Json

section Elements

theorem readInteger_eq_ok_iff {first last n : Int} {wanted : Wanted} {json : Json} :
    readInteger first last wanted json = .ok n ↔ json = .integer n ∧ first ≤ n ∧ n ≤ last := by
  cases json with
  | integer m =>
    rw [readInteger]
    split
    · rename_i within
      constructor
      · rintro ⟨⟩
        exact ⟨rfl, within⟩
      · rintro ⟨⟨⟩, -⟩
        rfl
    · rename_i outside
      constructor
      · rintro ⟨⟩
      · rintro ⟨⟨⟩, within⟩
        exact absurd within outside
  | _ => simp [readInteger]

theorem readBoolean_eq_ok_iff {json : Json} {b : Bool} :
    readBoolean json = .ok b ↔ json = .boolean b := by
  cases json <;> simp [readBoolean]

theorem bind_eq_ok_iff {ε α β : Type} {first : Except ε α} {next : α → Except ε β} {b : β} :
    (first >>= next) = .ok b ↔ ∃ a, first = .ok a ∧ next a = .ok b := by
  cases first <;> simp [bind, Except.bind]

theorem pure_eq_ok_iff {ε α : Type} {a b : α} : (pure a : Except ε α) = .ok b ↔ a = b := by
  simp [pure, Except.pure]

theorem readByte_eq_ok_iff {json : Json} {byte : UInt8} :
    readByte json = .ok byte ↔ json = .integer byte.toNat := by
  simp only [readByte, bind_eq_ok_iff, pure_eq_ok_iff, readInteger_eq_ok_iff]
  constructor
  · rintro ⟨n, ⟨rfl, nonneg, last⟩, rfl⟩
    rw [UInt8.toNat_ofNat_of_lt' (by simp only [UInt8.size]; omega), Int.toNat_of_nonneg nonneg]
  · intro same
    have bound := byte.toNat_lt
    exact ⟨byte.toNat, ⟨same, by omega⟩, by simp⟩

theorem readWord_eq_ok_iff {json : Json} {word : UInt64} :
    readWord json = .ok word ↔ json = .integer word.toNat := by
  simp only [readWord, bind_eq_ok_iff, pure_eq_ok_iff, readInteger_eq_ok_iff]
  constructor
  · rintro ⟨n, ⟨rfl, nonneg, last⟩, rfl⟩
    rw [UInt64.toNat_ofNat_of_lt' (by omega), Int.toNat_of_nonneg nonneg]
  · intro same
    have bound := word.toNat_lt_size
    exact ⟨word.toNat, ⟨same, by omega⟩, by simp⟩

/-- A list is read if each of its elements is. -/
theorem mapM_eq_ok_iff {α β ε : Type} {read : α → Except ε β} {items : List α} {values : List β} :
    items.mapM read = .ok values ↔
      List.Forall₂ (fun item value => read item = .ok value) items values := by
  induction items generalizing values with
  | nil =>
    rw [List.mapM_nil, pure_eq_ok_iff, List.forall₂_nil_left_iff]
    exact eq_comm
  | cons item items ih =>
    simp only [List.mapM_cons, bind_eq_ok_iff, pure_eq_ok_iff, ih, List.forall₂_cons_left_iff]
    constructor
    · rintro ⟨value, first, rest, others, rfl⟩
      exact ⟨value, rest, first, others, rfl⟩
    · rintro ⟨value, rest, first, others, rfl⟩
      exact ⟨value, first, rest, others, rfl⟩

/-- Every element has its partner. -/
theorem exists_of_forall₂ {α β : Type} {R : α → β → Prop} {items : List α} {values : List β}
    (each : List.Forall₂ R items values) {item : α} (member : item ∈ items) :
    ∃ value, R item value := by
  have partnered : List.Forall₂ (fun item value => (∃ value, R item value) ∧ R item value) items
      values := each.imp fun _ value own => ⟨⟨value, own⟩, own⟩
  exact ((List.forall₂_and_left _ _).mp partnered).1 item member

end Elements

/-- A type in JSON: every value is read back from what it is written as, at once and from the
document of that, and read is exactly what means a value. -/
structure Codec {α : Type} (toJson : α → Json) (ofJson : Json → Except DecodeError α)
    (Means : Json → α → Prop) : Prop where
  written : ∀ v, ofJson (toJson v) = .ok v
  document : ∀ v, ∃ json, parse? (toJson v).write = some json ∧ ofJson json = .ok v
  accepted : ∀ json v, ofJson json = .ok v ↔ Means json v
  refused : ∀ json, (∀ v, ¬Means json v) → ∃ cause, ofJson json = .error cause

/-- A reader that accepts exactly what means a value makes a codec with any writer of such. -/
theorem Codec.of_accepted {α : Type} {toJson : α → Json} {ofJson : Json → Except DecodeError α}
    {Means : Json → α → Prop} (accepted : ∀ json v, ofJson json = .ok v ↔ Means json v)
    (own : ∀ v, Means (toJson v) v) (exact : ∀ v, (toJson v).Exact) :
    Codec toJson ofJson Means where
  written v := (accepted _ v).mpr (own v)
  document v := ⟨toJson v, parse?_write (exact v), (accepted _ v).mpr (own v)⟩
  accepted := accepted
  refused json wrong := by
    cases read : ofJson json with
    | error cause => exact ⟨cause, rfl⟩
    | ok v => exact absurd ((accepted json v).mp read) (wrong v)

end Json

open Json

/-- An integer within the valid range means the amount of as many satoshis. -/
def Amount.Means (json : Json) (a : Amount) : Prop :=
  ∃ n : Int, json = .integer n ∧ 0 ≤ n ∧ n ≤ maxMoney ∧ (a.satoshis : Int) = n

/-- An array of 32 integers from 0 to 255 means the bytes of these numbers. -/
def Bytes32.Means (json : Json) (b : Bytes32) : Prop :=
  ∃ items, json = .array items ∧ items.length = 32 ∧
    List.Forall₂ (fun item (byte : UInt8) => ∃ n : Int, item = .integer n ∧
      0 ≤ n ∧ n ≤ 255 ∧ (byte.toNat : Int) = n) items b.toList

/-- An array of amounts means their list; it is the one item of an array or stands in an object
under its name. -/
def TxData.Means (json : Json) (t : TxData) : Prop :=
  ∃ items, List.Forall₂ Amount.Means items t.spentAmounts ∧
    (json = .array [.array items] ∨ ∃ fields, json = .object fields ∧
      fields.lookup "spent_amounts" = some (.array items))

namespace Config

/-- One of the two names with a value of its type. -/
def IsField (t : String × Json) : Prop :=
  (∃ b, t = ("batch_schnorr", .boolean b)) ∨
    ∃ n : UInt64, t = ("sig_cache_max_entries", .integer n.toNat)

/-- The fields of an object are those of a configuration, each with a value of its type. A field has
the value given to it last, and its default if none is given. -/
structure Given (fields : List (String × Json)) (c : Config) : Prop where
  known : ∀ t ∈ fields, IsField t
  batch : fields.reverse.lookup "batch_schnorr" = some (.boolean c.batchSchnorr) ∨
    fields.reverse.lookup "batch_schnorr" = none ∧ c.batchSchnorr = ({} : Config).batchSchnorr
  limit : fields.reverse.lookup "sig_cache_max_entries" = some (.integer c.cacheLimit.toNat) ∨
    fields.reverse.lookup "sig_cache_max_entries" = none ∧ c.cacheLimit = ({} : Config).cacheLimit

/-- An object means the configuration it gives. An array means the one of its items in order; the
second or both may lack. -/
def Means (json : Json) (c : Config) : Prop :=
  (json = .array [] ∧ c = {}) ∨ (json = .array [.boolean c.batchSchnorr] ∧
    c.cacheLimit = ({} : Config).cacheLimit) ∨
    json = .array [.boolean c.batchSchnorr, .integer c.cacheLimit.toNat] ∨
      ∃ fields, json = .object fields ∧ Given fields c

end Config

/-- Amounts are read exactly from the integers of the valid range. -/
theorem Amount.ofJson_eq_ok_iff {json : Json} {a : Amount} :
    ofJson json = .ok a ↔ Means json a := by
  have mapped {made : Except AmountError Amount} : made.mapError DecodeError.amount = .ok a ↔
    made = .ok a := by
    cases made <;> simp [Except.mapError]
  have most : (maxMoney : Int) < signedBound := Int.ofNat_lt.mpr maxMoney_lt_signedBound
  have number {n : Int} (first : -(signedBound : Int) ≤ n) (last : n < signedBound) :
    (Int64.ofInt n).toInt = n :=
    Int64.toInt_ofInt_of_le first last
  simp only [ofJson, bind_eq_ok_iff, readInteger_eq_ok_iff, mapped, ofInt64_eq_ok_iff]
  constructor
  · rintro ⟨n, ⟨rfl, first, last⟩, same⟩
    rw [number first (by omega)] at same
    have within := a.satoshis_mem
    exact ⟨n, rfl, by omega, by omega, same⟩
  · rintro ⟨n, rfl, nonneg, upper, same⟩
    exact ⟨n, ⟨rfl, by omega, by omega⟩, by rw [same, number (by omega) (by omega)]⟩

/-- Thirty-two bytes are read exactly from arrays of as many small integers. -/
theorem Bytes32.ofJson_eq_ok_iff {json : Json} {b : Bytes32} :
    ofJson json = .ok b ↔ Means json b := by
  have elements {items : List Json} {bytes : Bytes} : items.mapM readByte = .ok bytes ↔ List.Forall₂
      (fun item (byte : UInt8) => ∃ n : Int, item = .integer n ∧ 0 ≤ n ∧ n ≤ 255 ∧
        (byte.toNat : Int) = n) items bytes := by
    have element (item : Json) (byte : UInt8) : readByte item = .ok byte ↔
        ∃ n : Int, item = .integer n ∧ 0 ≤ n ∧ n ≤ 255 ∧ (byte.toNat : Int) = n := by
      have bound := byte.toNat_lt
      rw [readByte_eq_ok_iff]
      constructor
      · rintro rfl
        exact ⟨byte.toNat, rfl, by omega, by omega, rfl⟩
      · rintro ⟨n, rfl, -, -, rfl⟩
        rfl
    simp only [mapM_eq_ok_iff, element]
  cases json with
  | array items =>
    simp only [ofJson, bind_eq_ok_iff, elements]
    constructor
    · rintro ⟨bytes, read, made⟩
      split at made
      · split at made
        · rename_i full
          cases made
          rw [List.take_of_length_le (by omega)] at read
          exact ⟨items, rfl, full, read⟩
        · cases made
      · cases made
    · rintro ⟨_, ⟨⟩, full, read⟩
      refine ⟨b.toList, by rwa [List.take_of_length_le (by omega)], ?_⟩
      rw [dif_pos b.length_toList, if_pos full]
  | _ => simp [ofJson, Means]

theorem TxData.readAmounts_eq_ok_iff {json : Json} {amounts : List Amount} :
    readAmounts json = .ok amounts ↔
      ∃ items, json = .array items ∧ List.Forall₂ Amount.Means items amounts := by
  cases json with
  | array items => simp [readAmounts, mapM_eq_ok_iff, Amount.ofJson_eq_ok_iff]
  | _ => simp [readAmounts]

theorem TxData.ofFields_eq_ok_iff {fields : List (String × Json)} {amounts : List Amount} :
    ofFields fields = .ok amounts ↔
      ∃ json, fields.lookup "spent_amounts" = some json ∧ readAmounts json = .ok amounts := by
  induction fields with
  | nil => simp [ofFields]
  | cons field others ih =>
    obtain ⟨name, value⟩ := field
    rw [ofFields]
    by_cases own : name = "spent_amounts"
    · simp [own]
    · have other : ("spent_amounts" == name) = false := by simpa using Ne.symm own
      rw [if_neg own, ih, List.lookup_cons, other]

/-- Transaction data are read exactly from what means them. -/
theorem TxData.ofJson_eq_ok_iff {json : Json} {t : TxData} :
    ofJson json = .ok t ↔ Means json t := by
  have made {amounts : List Amount} : (⟨amounts⟩ : TxData) = t ↔ amounts = t.spentAmounts := by
    cases t
    simp
  unfold Means
  cases json with
  | object fields =>
    simp only [ofJson, bind_eq_ok_iff, pure_eq_ok_iff, ofFields_eq_ok_iff,
      readAmounts_eq_ok_iff, made]
    constructor
    · rintro ⟨_, ⟨_, given, items, rfl, each⟩, rfl⟩
      exact ⟨items, each, Or.inr ⟨fields, rfl, given⟩⟩
    · rintro ⟨items, each, same | ⟨_, ⟨⟩, given⟩⟩
      · cases same
      · exact ⟨_, ⟨_, given, items, rfl, each⟩, rfl⟩
  | array parts =>
    cases parts with
    | nil => exact iff_of_false nofun (by simp)
    | cons first rest =>
      simp only [ofJson, bind_eq_ok_iff, readAmounts_eq_ok_iff]
      cases rest with
      | nil =>
        simp only [List.isEmpty_nil, if_true, pure_eq_ok_iff, made]
        constructor
        · rintro ⟨_, ⟨items, rfl, each⟩, rfl⟩
          exact ⟨items, each, Or.inl rfl⟩
        · rintro ⟨items, each, same | ⟨_, same, _⟩⟩
          · cases same
            exact ⟨_, ⟨items, rfl, each⟩, rfl⟩
          · cases same
      | cons second rest => simp
  | _ => simp [ofJson]

namespace Config

theorem readField_eq_ok_iff {c d : Config} {name : String} {value : Json} :
    readField c name value = .ok d ↔
    (∃ b, (name, value) = ("batch_schnorr", .boolean b) ∧ d = { c with batchSchnorr := b }) ∨
      ∃ n : UInt64, (name, value) =
        ("sig_cache_max_entries", .integer n.toNat) ∧ d = { c with cacheLimit := n } := by
  unfold readField
  split
  · subst name
    simp only [bind_eq_ok_iff, pure_eq_ok_iff, readBoolean_eq_ok_iff]
    constructor
    · rintro ⟨b, rfl, rfl⟩
      exact Or.inl ⟨b, rfl, rfl⟩
    · rintro (⟨b, same, rfl⟩ | ⟨n, same, -⟩)
      · cases same
        exact ⟨b, rfl, rfl⟩
      · simp at same
  · rename_i batch
    split
    · subst name
      simp only [bind_eq_ok_iff, pure_eq_ok_iff, readWord_eq_ok_iff]
      constructor
      · rintro ⟨n, rfl, rfl⟩
        exact Or.inr ⟨n, rfl, rfl⟩
      · rintro (⟨b, same, -⟩ | ⟨n, same, rfl⟩)
        · simp at same
        · cases same
          exact ⟨n, rfl, rfl⟩
    · rename_i limit
      simp [batch, limit]

def readFields (fields : List (String × Json)) : Except DecodeError Config :=
  fields.foldlM (fun c (name, value) => readField c name value) {}

theorem readFields_append (fields : List (String × Json)) (t : String × Json) :
    readFields (fields ++ [t]) = readFields fields >>= fun c => readField c t.1 t.2 := by
  simp [readFields, List.foldlM_append]

/-- What is given last comes first in reverse. -/
theorem lookup_reverse_append (fields : List (String × Json)) (name other : String) (value : Json) :
    (fields ++ [(name, value)]).reverse.lookup other =
      if other = name then some value else fields.reverse.lookup other := by
  rw [List.reverse_append, List.reverse_singleton, List.singleton_append, List.lookup_cons]
  by_cases same : other = name
  · simp [same]
  · have different : (other == name) = false := by simpa using same
    rw [if_neg same, different]

theorem Given.append {fields : List (String × Json)} {c d : Config} {name : String} {value : Json}
    (h : Given fields c) (read : readField c name value = .ok d) :
    Given (fields ++ [(name, value)]) d := by
  have known (own : IsField (name, value)) (t : String × Json)
    (member : t ∈ fields ++ [(name, value)]) : IsField t := by
    rcases List.mem_append.mp member with old | last
    · exact h.known t old
    · rwa [List.mem_singleton.mp last]
  rcases readField_eq_ok_iff.mp read with ⟨b, same, rfl⟩ | ⟨n, same, rfl⟩
  · cases same
    refine ⟨known (Or.inl ⟨b, rfl⟩), Or.inl ?_, ?_⟩
    · rw [lookup_reverse_append, if_pos rfl]
    · rw [lookup_reverse_append, if_neg (by decide)]
      exact h.limit
  · cases same
    refine ⟨known (Or.inr ⟨n, rfl⟩), ?_, Or.inl ?_⟩
    · rw [lookup_reverse_append, if_neg (by decide)]
      exact h.batch
    · rw [lookup_reverse_append, if_pos rfl]

/-- Fields give at most one configuration. -/
theorem Given.unique {fields : List (String × Json)} {c d : Config} (hc : Given fields c)
    (hd : Given fields d) : c = d := by
  have batch : c.batchSchnorr = d.batchSchnorr := by
    rcases hc.batch with own | ⟨absent, own⟩ <;> rcases hd.batch with other | ⟨other_absent, other⟩
    · simpa using own.symm.trans other
    · cases own.symm.trans other_absent
    · cases absent.symm.trans other
    · rw [own, other]
  have limit : c.cacheLimit.toNat = d.cacheLimit.toNat := by
    rcases hc.limit with own | ⟨absent, own⟩ <;> rcases hd.limit with other | ⟨other_absent, other⟩
    · have same : (c.cacheLimit.toNat : Int) = d.cacheLimit.toNat := by
        simpa using own.symm.trans other
      omega
    · cases own.symm.trans other_absent
    · cases absent.symm.trans other
    · rw [own, other]
  exact eq_of_fields batch limit

theorem given_of_readFields {fields : List (String × Json)} {c : Config}
    (read : readFields fields = .ok c) : Given fields c := by
  induction fields using List.reverseRecOn generalizing c with
  | nil =>
    cases read
    exact ⟨by simp, Or.inr ⟨rfl, rfl⟩, Or.inr ⟨rfl, rfl⟩⟩
  | append_singleton fields t ih =>
    rw [readFields_append, bind_eq_ok_iff] at read
    obtain ⟨before, first, last⟩ := read
    exact (ih first).append last

/-- Known fields with values of their types are all read. -/
theorem readFields_of_known {fields : List (String × Json)} (known : ∀ t ∈ fields, IsField t) :
    ∃ c, readFields fields = .ok c := by
  induction fields using List.reverseRecOn with
  | nil => exact ⟨{}, rfl⟩
  | append_singleton fields t ih =>
    obtain ⟨before, first⟩ := ih fun u member => known u (by simp [member])
    simp only [readFields_append, bind_eq_ok_iff, readField_eq_ok_iff, first]
    rcases known t (by simp) with ⟨b, rfl⟩ | ⟨n, rfl⟩
    · exact ⟨_, before, rfl, Or.inl ⟨b, rfl, rfl⟩⟩
    · exact ⟨_, before, rfl, Or.inr ⟨n, rfl, rfl⟩⟩

/-- A configuration is read exactly from the fields that give it. -/
theorem readFields_eq_ok_iff {fields : List (String × Json)} {c : Config} :
    readFields fields = .ok c ↔ Given fields c := by
  refine ⟨given_of_readFields, fun given => ?_⟩
  obtain ⟨d, read⟩ := readFields_of_known given.known
  rw [read, (given_of_readFields read).unique given]

theorem ofJson_eq_ok_iff {json : Json} {c : Config} : ofJson json = .ok c ↔ Means json c := by
  have made {b : Bool} {n : UInt64} : (⟨b, n⟩ : Config) = c ↔
    b = c.batchSchnorr ∧ n = c.cacheLimit := by
    cases c
    simp
  unfold Means
  cases json with
  | object fields =>
    have read : ofJson (.object fields) = readFields fields := rfl
    simp [read, readFields_eq_ok_iff]
  | array parts =>
    rcases parts with - | ⟨batch, - | ⟨limit, rest⟩⟩
    · constructor
      · rintro ⟨⟩
        exact Or.inl ⟨rfl, rfl⟩
      · rintro (⟨-, rfl⟩ | ⟨same, -⟩ | same | ⟨_, same, -⟩)
        · rfl
        all_goals cases same
    · simp only [ofJson, bind_eq_ok_iff, pure_eq_ok_iff, readBoolean_eq_ok_iff, made]
      constructor
      · rintro ⟨b, rfl, rfl, same⟩
        exact Or.inr (Or.inl ⟨rfl, same.symm⟩)
      · rintro (⟨same, -⟩ | ⟨same, default⟩ | same | ⟨_, same, -⟩)
        · cases same
        · cases same
          exact ⟨_, rfl, rfl, default.symm⟩
        · cases same
        · cases same
    · simp only [ofJson, bind_eq_ok_iff, readBoolean_eq_ok_iff, readWord_eq_ok_iff]
      cases rest with
      | nil =>
        simp only [List.isEmpty_nil, if_true, pure_eq_ok_iff, made]
        constructor
        · rintro ⟨b, rfl, n, rfl, rfl, rfl⟩
          exact Or.inr (Or.inr (Or.inl rfl))
        · rintro (⟨same, -⟩ | ⟨same, -⟩ | same | ⟨_, same, -⟩)
          · cases same
          · cases same
          · cases same
            exact ⟨_, rfl, _, rfl, rfl, rfl⟩
          · cases same
      | cons third rest => simp
  | _ => simp [ofJson]

end Config

theorem Amount.json_codec : Codec Amount.toJson Amount.ofJson Amount.Means := by
  refine .of_accepted (fun _ _ => ofJson_eq_ok_iff) (fun a => ?_) fun a => ?_
  · exact ⟨a.satoshis, rfl, a.satoshis_mem.1, a.satoshis_mem.2, rfl⟩
  · have fits := a.satoshis_lt
    have bounds : signedBound < UInt64.size := by decide
    exact .integer (by omega) (by omega)

theorem Bytes32.means_toJson (b : Bytes32) : Means b.toJson b := by
  refine ⟨_, rfl, by rw [List.length_map, b.length_toList], ?_⟩
  rw [List.forall₂_map_left_iff, List.forall₂_same]
  intro byte _
  have bound := byte.toNat_lt
  exact ⟨byte.toNat, rfl, by omega, by omega, rfl⟩

theorem Bytes32.exact_toJson (b : Bytes32) : b.toJson.Exact := by
  refine .array fun item member => ?_
  obtain ⟨byte, -, rfl⟩ := List.mem_map.mp member
  have bound := byte.toNat_lt
  have size : 256 < UInt64.size := by decide
  exact .integer (by omega) (by omega)

/-- Thirty-two bytes under a name are read as the bytes are. -/
theorem Bytes32.bind_ofJson_eq_ok_iff {α : Type} {mk : Bytes32 → α} {bytes : α → Bytes32}
    (own : ∀ v, mk (bytes v) = v) (same : ∀ b, bytes (mk b) = b) {json : Json} {v : α} :
    (do return mk (← Bytes32.ofJson json) : Except DecodeError α) = .ok v ↔
      Means json (bytes v) := by
  simp only [bind_eq_ok_iff, pure_eq_ok_iff, ofJson_eq_ok_iff]
  constructor
  · rintro ⟨b, read, rfl⟩
    rwa [same]
  · intro read
    exact ⟨_, read, own v⟩

theorem SigHash.json_codec :
    Codec SigHash.toJson SigHash.ofJson fun json s => Bytes32.Means json s.bytes :=
  .of_accepted (fun _ _ => Bytes32.bind_ofJson_eq_ok_iff (fun _ => rfl) fun _ => rfl)
    (fun s => s.bytes.means_toJson)
    fun s => s.bytes.exact_toJson

theorem XOnlyKey.json_codec :
    Codec XOnlyKey.toJson XOnlyKey.ofJson fun json k => Bytes32.Means json k.bytes :=
  .of_accepted (fun _ _ => Bytes32.bind_ofJson_eq_ok_iff (fun _ => rfl) fun _ => rfl)
    (fun k => k.bytes.means_toJson)
    fun k => k.bytes.exact_toJson

theorem TxData.json_codec : Codec TxData.toJson TxData.ofJson TxData.Means := by
  refine .of_accepted (fun _ _ => ofJson_eq_ok_iff) (fun t => ?_) fun t => ?_
  · refine ⟨t.spentAmounts.map Amount.toJson, ?_, Or.inr ⟨_, rfl, by simp⟩⟩
    rw [List.forall₂_map_left_iff, List.forall₂_same]
    exact fun a _ => ⟨a.satoshis, rfl, a.satoshis_mem.1, a.satoshis_mem.2, rfl⟩
  · refine .object (by simp) fun field member => ?_
    cases List.mem_singleton.mp member
    refine .array fun item member => ?_
    obtain ⟨a, -, rfl⟩ := List.mem_map.mp member
    have fits := a.satoshis_lt
    have bounds : signedBound < UInt64.size := by decide
    exact .integer (by omega) (by omega)

theorem Config.json_codec : Codec Config.toJson Config.ofJson Config.Means := by
  refine .of_accepted (fun _ _ => ofJson_eq_ok_iff) (fun c => ?_) fun c => ?_
  · refine Or.inr (Or.inr (Or.inr ⟨_, rfl, fun t member => ?_, Or.inl rfl, Or.inl rfl⟩))
    rcases List.mem_cons.mp member with rfl | member
    · exact Or.inl ⟨_, rfl⟩
    · cases List.mem_singleton.mp member
      exact Or.inr ⟨_, rfl⟩
  · have names : "batch_schnorr" < "sig_cache_max_entries" := by decide +kernel
    refine .object (List.pairwise_pair.mpr names) fun field member => ?_
    rcases List.mem_cons.mp member with rfl | member
    · exact .boolean _
    · cases List.mem_singleton.mp member
      have bound := c.cacheLimit.toNat_lt_size
      exact .integer (by omega) (by omega)

namespace Json

/-- All types have their JSON forms, and one wrong part is enough for a value to be refused,
whatever else it holds: an amount of the list that is no integer in the valid range, a byte that is
none or one too few or too many, a field that is unknown or has a value of another type. -/
theorem codecs :
    Codec Amount.toJson Amount.ofJson Amount.Means ∧
    Codec SigHash.toJson SigHash.ofJson (fun json s => Bytes32.Means json s.bytes) ∧
    Codec XOnlyKey.toJson XOnlyKey.ofJson (fun json k => Bytes32.Means json k.bytes) ∧
    Codec Config.toJson Config.ofJson Config.Means ∧
    Codec TxData.toJson TxData.ofJson TxData.Means ∧
    (∀ items : List Json, (∃ item ∈ items, ∀ n : Int, 0 ≤ n → n ≤ maxMoney → item ≠ .integer n) →
      (∃ cause, TxData.ofJson (.array [.array items]) = .error cause) ∧
      ∀ fields : List (String × Json), fields.lookup "spent_amounts" = some (.array items) →
        ∃ cause, TxData.ofJson (.object fields) = .error cause) ∧
    (∀ items : List Json, items.length ≠ 32 ∨
      (∃ item ∈ items, ∀ n : Int, 0 ≤ n → n ≤ 255 → item ≠ .integer n) →
      (∃ cause, SigHash.ofJson (.array items) = .error cause) ∧ ∃ cause, XOnlyKey.ofJson
        (.array items) = .error cause) ∧
    ∀ fields : List (String × Json), (∃ t ∈ fields, (∀ b, t ≠ ("batch_schnorr", .boolean b)) ∧
        ∀ n : UInt64, t ≠ ("sig_cache_max_entries", .integer n.toNat)) →
      ∃ cause, Config.ofJson (.object fields) = .error cause := by
  refine ⟨Amount.json_codec, SigHash.json_codec, XOnlyKey.json_codec, Config.json_codec,
    TxData.json_codec, ?_, ?_, ?_⟩
  · rintro items ⟨item, member, wrong⟩
    have never (amounts : List Amount) : ¬List.Forall₂ Amount.Means items amounts := by
      intro each
      obtain ⟨a, n, same, nonneg, upper, -⟩ := exists_of_forall₂ each member
      exact wrong n nonneg upper same
    refine ⟨TxData.json_codec.refused _ ?_, fun fields given => TxData.json_codec.refused _ ?_⟩
    · rintro t ⟨others, each, same | ⟨_, same, -⟩⟩
      · cases same
        exact never _ each
      · cases same
    · rintro t ⟨others, each, same | ⟨_, same, others_given⟩⟩
      · cases same
      · cases same
        cases given.symm.trans others_given
        exact never _ each
  · intro items wrong
    have never (b : Bytes32) : ¬Bytes32.Means (.array items) b := by
      rintro ⟨_, ⟨⟩, full, each⟩
      rcases wrong with short | ⟨item, member, wrong⟩
      · exact short full
      · obtain ⟨byte, n, same, nonneg, upper, -⟩ := exists_of_forall₂ each member
        exact wrong n nonneg upper same
    exact ⟨SigHash.json_codec.refused _ fun s => never s.bytes,
      XOnlyKey.json_codec.refused _ fun k => never k.bytes⟩
  · rintro fields ⟨t, member, no_batch, no_limit⟩
    refine Config.json_codec.refused _ ?_
    rintro c (⟨same, -⟩ | ⟨same, -⟩ | same | ⟨_, same, given⟩)
    · cases same
    · cases same
    · cases same
    · cases same
      rcases given.known t member with ⟨b, own⟩ | ⟨n, own⟩
      · exact no_batch b own
      · exact no_limit n own

/-- One wrong part in each kind of value, and a configuration of which only one field is given. -/
theorem codecs_samples :
    (∃ cause, TxData.ofJson (.array [.array [.integer 10, .integer (-1)]]) = .error cause) ∧
    (∃ cause, TxData.ofJson (.object [("spent_amounts", .array [.integer 10, .integer (-1)])]) =
      .error cause) ∧
    (∃ cause, SigHash.ofJson (.array (List.replicate 31 (.integer 0))) = .error cause) ∧
    (∃ cause, XOnlyKey.ofJson (.array (List.replicate 32 (.integer 256))) = .error cause) ∧
    (∃ cause, Config.ofJson (.object [("batch_ecdsa", .boolean true)]) = .error cause) ∧
    Config.ofJson (.object [("sig_cache_max_entries", .integer 64)]) = .ok ⟨true, 64⟩ := by
  obtain ⟨-, -, -, config, -, amounts, bytes, fields⟩ := codecs
  have negative : ∃ item ∈ [Json.integer 10, .integer (-1)], ∀ n : Int, 0 ≤ n →
    n ≤ maxMoney → item ≠ .integer n := by
    refine ⟨.integer (-1), by simp, fun n nonneg _ same => ?_⟩
    cases same
    omega
  have large : ∃ item ∈ List.replicate 32 (Json.integer 256), ∀ n : Int, 0 ≤ n →
    n ≤ 255 → item ≠ .integer n := by
    refine ⟨.integer 256, List.mem_replicate.mpr ⟨by decide, rfl⟩, fun n _ upper same => ?_⟩
    cases same
    omega
  refine ⟨(amounts _ negative).1, (amounts _ negative).2 _ rfl,
    (bytes _ (Or.inl (by decide))).1, (bytes _ (Or.inr large)).2, fields _
      ⟨("batch_ecdsa", .boolean true), by simp, by simp, by simp⟩, (config.accepted _ _).mpr ?_⟩
  refine Or.inr (Or.inr (Or.inr ⟨_, rfl, fun t member => ?_, Or.inr ⟨rfl, rfl⟩, Or.inl rfl⟩))
  cases List.mem_singleton.mp member
  exact Or.inr ⟨64, rfl⟩

end Json

end SigValidation
