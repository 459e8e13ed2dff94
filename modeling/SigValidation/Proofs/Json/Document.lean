import SigValidation.Json.Reader
import SigValidation.Proofs.Digits
/-!
# Documents read back

A value without doubles is read back from the document it is written as. Each reader is followed by
what may follow a value, the end or the sign that goes on with an array or an object, and takes no
more and no less than the printer wrote; so the readers of items and of fields go from one sign to
the next. The fuel of a reader is more than the characters of its value.
-/
namespace SigValidation.Json

section Texts

/-- Four digits in front of more characters are read as they are. -/
theorem hexUnit?_append {cs left : List Char} {n : Nat} (read : hexUnit? cs = some (n, left))
    (rest : List Char) : hexUnit? (cs ++ rest) = some (n, left ++ rest) := by
  unfold hexUnit? at read
  split at read
  · simp only [Option.bind_eq_bind, Option.bind_eq_some_iff] at read
    obtain ⟨a, ha, b, hb, c, hc, d, hd, same⟩ := read
    cases same
    simp [hexUnit?, ha, hb, hc, hd]
  · cases read

def controlDigits (n : Nat) : List Char :=
  List.replicate (4 - (Nat.toDigits 16 n).length) '0' ++ Nat.toDigits 16 n

theorem codeEscape?_controlDigits {n : Nat} (control : n < 0x20) (rest : List Char) :
    codeEscape? (controlDigits n ++ rest) = some (Char.ofNat n, rest) := by
  have digits : ∀ n < 0x20, hexUnit? (controlDigits n) = some (n, []) := by decide
  have high : ¬(0xd800 ≤ n ∧ n < 0xdc00) := by omega
  have low : ¬(0xdc00 ≤ n ∧ n < 0xe000) := by omega
  simp [codeEscape?, hexUnit?_append (digits n control) rest, high, low]

/-- One character is read back, whether it is escaped or stands for itself. -/
theorem textTail?_escapeChar (fuel : Nat) (held : List Char) (c : Char) (rest : List Char) :
    textTail?
      (fuel + 1) held ((escapeChar c).toList ++ rest) = textTail? fuel (c :: held) rest := by
  by_cases quote : c = '"'
  · subst c
    rfl
  by_cases slash : c = '\\'
  · subst c
    rfl
  by_cases feed : c = '\n'
  · subst c
    rfl
  by_cases back : c = '\r'
  · subst c
    rfl
  by_cases tab : c = '\t'
  · subst c
    rfl
  by_cases control : c.toNat < 0x20
  · have escaped : (escapeChar c).toList ++ rest =
        '\\' :: 'u' :: (controlDigits c.toNat ++ rest) := by
      simp [escapeChar, quote, slash, feed, back, tab, control, controlDigits]
    rw [escaped, textTail?, if_neg (by decide), if_pos rfl]
    simp [codeEscape?_controlDigits control, Char.ofNat_toNat]
  · simp [escapeChar, textTail?, quote, slash, feed, back, tab, control]

theorem toList_writeText (content : String) :
    (writeText content).toList =
      '"' :: (content.toList.flatMap (fun c => (escapeChar c).toList) ++ ['"']) := by
  simp [writeText, List.flatMap_map]

/-- A text is read back up to its closing quote. -/
theorem textTail?_writeText (cs : List Char) (rest : List Char) (fuel : Nat) (held : List Char)
    (enough : cs.length < fuel) :
    textTail? fuel held (cs.flatMap (fun c => (escapeChar c).toList) ++ '"' :: rest)
      = some (String.ofList (held.reverse ++ cs), rest) := by
  induction cs generalizing fuel held with
  | nil =>
    obtain ⟨fuel, rfl⟩ := Nat.exists_eq_succ_of_ne_zero (by omega : fuel ≠ 0)
    simp [textTail?]
  | cons c cs ih =>
    obtain ⟨fuel, rfl⟩ := Nat.exists_eq_succ_of_ne_zero (by omega : fuel ≠ 0)
    rw [List.length_cons] at enough
    rw [List.flatMap_cons, List.append_assoc, textTail?_escapeChar, ih fuel (c :: held) (by omega),
      List.reverse_cons, List.append_assoc]
    rfl

/-- Escaping makes no text shorter. -/
theorem length_le_escaped (cs : List Char) :
    cs.length ≤ (cs.flatMap fun c => (escapeChar c).toList).length := by
  have shown (c : Char) : 1 ≤ (escapeChar c).toList.length := by
    unfold escapeChar
    repeat' split
    all_goals simp
  induction cs with
  | nil => exact Nat.le_refl 0
  | cons c cs ih =>
    have := shown c
    rw [List.flatMap_cons, List.length_append, List.length_cons]
    omega

/-- A text is read back with as much fuel as there are characters after its opening quote. -/
theorem textTail?_content (content : String) (rest : List Char) :
    ∃ tail, (writeText content).toList ++ rest = '"' :: tail ∧ textTail?
      (tail.length + 1) [] tail = some (content, rest) := by
  refine ⟨content.toList.flatMap (fun c => (escapeChar c).toList) ++ '"' :: rest,
    by simp [toList_writeText], ?_⟩
  have enough := length_le_escaped content.toList
  rw [textTail?_writeText _ _ _ _ (by rw [List.length_append]; omega)]
  simp

end Texts

/-- What may stand behind a value inside a document. -/
def Closed (rest : List Char) : Prop := ∀ c ∈ rest.head?, c = ',' ∨ c = ']' ∨ c = '\x7d'

section Numbers

variable {rest : List Char}

theorem takeWhile_digits (closed : Closed rest) (n : Nat) :
    (Nat.toDigits 10 n ++ rest).takeWhile Char.isDigit = Nat.toDigits 10 n ∧
      (Nat.toDigits 10 n ++ rest).dropWhile Char.isDigit = rest := by
  have digits (c : Char) (member : c ∈ Nat.toDigits 10 n) : c.isDigit = true :=
    Text.isDigit_of_mem_toDigits member
  rw [List.takeWhile_append_of_pos digits, List.dropWhile_append_of_pos digits]
  cases rest with
  | nil => simp
  | cons c rest =>
    rcases closed c rfl with rfl | rfl | rfl <;> simp

theorem fraction?_closed (closed : Closed rest) : fraction? rest = some (none, rest) := by
  cases rest with
  | nil => rfl
  | cons c rest => rcases closed c rfl with rfl | rfl | rfl <;> rfl

theorem exponent?_closed (closed : Closed rest) : exponent? rest = some (none, rest) := by
  cases rest with
  | nil => rfl
  | cons c rest => rcases closed c rfl with rfl | rfl | rfl <;> rfl

theorem number?_digits (closed : Closed rest) (n : Nat) :
    number? (Nat.toDigits 10 n ++ rest) = (ofInteger? false (Nat.toDigits 10 n)).map (·, rest) ∧
      number? ('-' :: (Nat.toDigits 10 n ++ rest)) =
        (ofInteger? true (Nat.toDigits 10 n)).map (·, rest) := by
  obtain ⟨taken, left⟩ := takeWhile_digits closed n
  have whole : ¬((Nat.toDigits 10 n).isEmpty ∨ (Nat.toDigits 10 n).head? = some '0' ∧
    (Nat.toDigits 10 n).length ≠ 1) := by
    rintro (empty | ⟨zero, more⟩)
    · exact Nat.toDigits_ne_nil (List.isEmpty_iff.mp empty)
    · exact more (Text.length_toDigits_of_head? zero)
  have unsigned (more : List Char) : Nat.toDigits 10 n ++ rest ≠ '-' :: more := by
    obtain ⟨c, others, digits⟩ :=
      List.exists_cons_of_ne_nil (Nat.toDigits_ne_nil (n := n) (b := 10))
    have digit : c.isDigit = true := Text.isDigit_of_mem_toDigits (n := n) (by simp [digits])
    rw [digits]
    rintro same
    cases same
    cases digit
  constructor
  · unfold number?
    split
    rename_i negative cs same
    split at same
    · rename_i more starts
      exact absurd starts (unsigned more)
    · cases same
      rw [taken, left, if_neg whole, fraction?_closed closed]
      simp only [Option.bind_eq_bind, Option.bind_some, exponent?_closed closed]
      cases ofInteger? false (Nat.toDigits 10 n) <;> rfl
  · simp only [number?, taken, left, if_neg whole, fraction?_closed closed,
      Option.bind_eq_bind, Option.bind_some, exponent?_closed closed]
    cases ofInteger? true (Nat.toDigits 10 n) <;> rfl

/-- An integer of 64 bits is read back, signed or unsigned. -/
theorem number?_decimal (closed : Closed rest) {n : Int} (first : -(signedBound : Int) ≤ n)
    (last : n < UInt64.size) :
    number? ((Text.decimal n).toList ++ rest) = some (.integer n, rest) := by
  obtain ⟨unsigned, signed⟩ := number?_digits closed n.natAbs
  by_cases negative : n < 0
  · have within : 0 < n.natAbs ∧ n.natAbs ≤ signedBound := by omega
    have same : -(n.natAbs : Int) = n := by omega
    rw [Text.toList_decimal, if_pos negative, List.cons_append, signed, ofInteger?]
    simp only [Nat.ofDigitChars_ten_toDigits, if_true, if_pos within, same, Option.map_some]
  · have within : n.natAbs < UInt64.size := by omega
    have same : (n.natAbs : Int) = n := by omega
    rw [Text.toList_decimal, if_neg negative, unsigned, ofInteger?]
    simp only [Nat.ofDigitChars_ten_toDigits, Bool.false_eq_true, if_false,
      if_pos within, same, Option.map_some]

/-- An integer begins with its sign or with a digit. -/
theorem decimal_head (n : Int) :
    ∃ c more, (Text.decimal n).toList = c :: more ∧ (c = '-' ∨ c.isDigit = true) := by
  obtain ⟨c, others, digits⟩ :=
    List.exists_cons_of_ne_nil (Nat.toDigits_ne_nil (n := n.natAbs) (b := 10))
  rw [Text.toList_decimal]
  split
  · exact ⟨'-', _, rfl, Or.inl rfl⟩
  · exact ⟨c, others, digits,
      Or.inr (Text.isDigit_of_mem_toDigits (n := n.natAbs) (by simp [digits]))⟩

end Numbers

/-- Values that a document says exactly: there are no doubles, integers fit 64 bits, and the fields
of an object stand in the order of their names. -/
inductive Exact : Json → Prop where
  | null : Exact .null
  | boolean (b : Bool) : Exact (.boolean b)
  | integer {n : Int} (first : -(signedBound : Int) ≤ n) (last : n < UInt64.size) :
      Exact (.integer n)
  | text (content : String) : Exact (.text content)
  | array {items : List Json} (each : ∀ item ∈ items, Exact item) : Exact (.array items)
  | object {fields : List (String × Json)} (sorted : fields.Pairwise (·.1 < ·.1))
      (each : ∀ field ∈ fields, Exact field.2) :
    Exact (.object fields)

/-- Whatever follows a value, the value is read and no more. -/
def ReadBack (json : Json) : Prop :=
  ∀ fuel rest, (write json).toList.length < fuel → Closed rest →
    value? fuel ((write json).toList ++ rest) = some (json, rest)

theorem readBack_of_succ {json : Json}
    (read : ∀ fuel rest, (write json).toList.length ≤ fuel → Closed rest →
      value? (fuel + 1) ((write json).toList ++ rest) = some (json, rest)) : ReadBack json := by
  intro fuel rest enough closed
  obtain ⟨fuel, rfl⟩ := Nat.exists_eq_succ_of_ne_zero (by omega : fuel ≠ 0)
  exact read fuel rest (Nat.le_of_lt_succ enough) closed

def itemsText (items : List Json) : List Char := (String.intercalate "," (writeItems items)).toList

def fieldsText (fields : List (String × Json)) : List Char :=
  (String.intercalate "," (writeFields fields)).toList

theorem toList_write_array (items : List Json) :
    (write (.array items)).toList = '[' :: (itemsText items ++ [']']) := by
  simp [write, itemsText]

theorem toList_write_object (fields : List (String × Json)) :
    (write (.object fields)).toList = '\x7b' :: (fieldsText fields ++ ['\x7d']) := by
  simp [write, fieldsText]

/-- A value begins with none of the characters that are skipped or that end an array. -/
theorem Exact.head {json : Json} (exact : Exact json) :
    ∃ c more, (write json).toList = c :: more ∧ isBlank c = false ∧ c ≠ ']' := by
  cases exact with
  | null => exact ⟨'n', "ull".toList, by decide, by decide, by decide⟩
  | boolean b =>
    cases b with
    | false => exact ⟨'f', "alse".toList, by decide, by decide, by decide⟩
    | true => exact ⟨'t', "rue".toList, by decide, by decide, by decide⟩
  | integer first last =>
    obtain ⟨c, more, starts, sign⟩ := decimal_head _
    refine ⟨c, more, by rw [write, starts], Bool.eq_false_iff.mpr fun blank => ?_, ?_⟩
    · simp only [isBlank, Bool.or_eq_true, beq_iff_eq] at blank
      rcases blank with ((rfl | rfl) | rfl) | rfl <;> simp at sign
    · rintro rfl
      simp at sign
  | text content => exact ⟨'"', _, toList_writeText content, by decide, by decide⟩
  | array each => exact ⟨'[', _, toList_write_array _, by decide, by decide⟩
  | object sorted each => exact ⟨'\x7b', _, toList_write_object _, by decide, by decide⟩

section Items

variable {rest : List Char}

/-- Items that are each read back are read back as a list. -/
theorem items?_itemsText {items : List Json} (nonempty : items ≠ [])
    (each : ∀ item ∈ items, ReadBack item) {fuel : Nat}
    (enough : (itemsText items).length + 1 < fuel) :
    items? fuel (itemsText items ++ ']' :: rest) = some (items, rest) := by
  induction items generalizing fuel with
  | nil => exact absurd rfl nonempty
  | cons item others ih =>
    obtain ⟨fuel, rfl⟩ := Nat.exists_eq_succ_of_ne_zero (by omega : fuel ≠ 0)
    cases others with
    | nil =>
      have last : itemsText [item] = (write item).toList := by simp [itemsText, writeItems]
      rw [last] at enough ⊢
      rw [items?, each item (by simp) fuel (']' :: rest) (by omega) (by simp [Closed])]
      rfl
    | cons next others =>
      have more : itemsText (item :: next :: others) = (write item).toList ++
        ',' :: itemsText (next :: others) := by
        simp [itemsText, writeItems]
      rw [more] at enough ⊢
      rw [List.length_append, List.length_cons] at enough
      rw [List.append_assoc, items?, each item (by simp) fuel _ (by omega) (by simp [Closed])]
      have others_read : items? fuel (itemsText (next :: others) ++ ']' :: rest) =
        some (next :: others, rest) :=
        ih (by simp) (fun item member => each item (by simp [member])) (by omega)
      simp [skipBlanks, isBlank, others_read]

/-- So are fields, with their names. -/
theorem fields?_fieldsText {fields : List (String × Json)} (nonempty : fields ≠ [])
    (each : ∀ field ∈ fields, ReadBack field.2) {fuel : Nat}
    (enough : (fieldsText fields).length + 1 < fuel) :
    fields? fuel (fieldsText fields ++ '\x7d' :: rest) = some (fields, rest) := by
  induction fields generalizing fuel with
  | nil => exact absurd rfl nonempty
  | cons field others ih =>
    obtain ⟨fuel, rfl⟩ := Nat.exists_eq_succ_of_ne_zero (by omega : fuel ≠ 0)
    obtain ⟨name, value⟩ := field
    have read : ReadBack value := each (name, value) (by simp)
    cases others with
    | nil =>
      have last : fieldsText [(name, value)] =
          (writeText name).toList ++ ':' :: (write value).toList := by
        simp [fieldsText, writeFields]
      rw [last] at enough ⊢
      rw [List.length_append, List.length_cons] at enough
      obtain ⟨tail, starts, name_read⟩ :=
        textTail?_content name (':' :: ((write value).toList ++ '\x7d' :: rest))
      rw [List.append_assoc, List.cons_append, starts, fields?]
      simp [skipBlanks, isBlank, name_read,
        read fuel ('\x7d' :: rest) (by omega) (by simp [Closed])]
    | cons next others =>
      have more : fieldsText ((name, value) :: next :: others)
          = (writeText name).toList ++ ':' ::
            ((write value).toList ++ ',' :: fieldsText (next :: others)) := by
        simp [fieldsText, writeFields]
      rw [more] at enough ⊢
      rw [List.length_append, List.length_cons, List.length_append, List.length_cons] at enough
      have others_read : fields? fuel (fieldsText (next :: others) ++ '\x7d' :: rest) =
        some (next :: others, rest) :=
        ih (by simp) (fun field member => each field (by simp [member])) (by omega)
      obtain ⟨tail, starts, name_read⟩ :=
        textTail?_content name (':' ::
          ((write value).toList ++ ',' :: (fieldsText (next :: others) ++ '\x7d' :: rest)))
      rw [List.append_assoc, List.cons_append, List.append_assoc, List.cons_append, starts, fields?]
      simp [skipBlanks, isBlank, name_read, others_read,
        read fuel (',' :: (fieldsText (next :: others) ++ '\x7d' :: rest))
          (by omega) (by simp [Closed])]

end Items

/-- An array that does not end at once has items. -/
theorem value?_items {c : Char} (more : List Char) (visible : isBlank c = false) (goes_on : c ≠ ']')
    (fuel : Nat) :
    value? (fuel + 1) ('[' :: c :: more) =
      (items? fuel (c :: more)).map fun (items, rest) => (.array items, rest) := by
  have opened : skipBlanks ('[' :: c :: more) = '[' :: c :: more := rfl
  have first : skipBlanks (c :: more) = c :: more := by simp [skipBlanks, visible]
  rw [value?, opened]
  simp only [first]
  split
  · rename_i ended
    cases ended
    exact absurd rfl goes_on
  · cases items? fuel (c :: more) <;> rfl

/-- An object that begins with a quote has fields. -/
theorem value?_fields (more : List Char) (fuel : Nat) :
    value? (fuel + 1) ('\x7b' :: '"' :: more) =
      (fields? fuel ('"' :: more)).map fun (fields, rest) => (ofFields fields, rest) := by
  have opened : skipBlanks ('\x7b' :: '"' :: more) = '\x7b' :: '"' :: more := rfl
  have first : skipBlanks ('"' :: more) = '"' :: more := rfl
  rw [value?, opened]
  simp only [first]
  split
  · rename_i ended
    cases ended
  · cases fields? fuel ('"' :: more) <;> rfl

/-- A field whose name comes after all others is put behind them. -/
theorem insertField_of_lt {fields : List (String × Json)} {name : String} (value : Json)
    (before : ∀ t ∈ fields, t.1 < name) :
    insertField name value fields = fields ++ [(name, value)] := by
  induction fields with
  | nil => rfl
  | cons t fields ih =>
    have first : t.1 < name := before t (by simp)
    have later : ¬name < t.1 := String.lt_asymm first
    have other : name ≠ t.1 := by
      intro same
      rw [same] at first
      exact String.lt_irrefl _ first
    rw [insertField, if_neg later, if_neg other, ih fun u member => before u (by simp [member])]
    rfl

/-- Fields in order stay as they are. -/
theorem ofFields_of_sorted {fields : List (String × Json)} (sorted : fields.Pairwise (·.1 < ·.1)) :
    ofFields fields = .object fields := by
  have put (first last : List (String × Json)) (sorted : (first ++ last).Pairwise (·.1 < ·.1)) :
      last.foldl (fun held t => insertField t.1 t.2 held) first = first ++ last := by
    induction last generalizing first with
    | nil => simp
    | cons t last ih =>
      obtain ⟨name, value⟩ := t
      have before : ∀ u ∈ first, u.1 < name :=
        fun u member => (List.pairwise_append.mp sorted).2.2 u member (name, value) (by simp)
      have shifted : first ++ (name, value) :: last = first ++ [(name, value)] ++ last := by simp
      rw [shifted] at sorted ⊢
      rw [← ih _ sorted, ← insertField_of_lt value before]
      rfl
  exact congrArg Json.object (put [] fields sorted)

/-- Neither a sign nor a digit begins any other kind of value. -/
theorem readBack_integer {n : Int} (first : -(signedBound : Int) ≤ n) (last : n < UInt64.size) :
    ReadBack (.integer n) := by
  refine readBack_of_succ fun fuel rest _ closed => ?_
  obtain ⟨c, more, starts, sign⟩ := decimal_head n
  obtain ⟨d, _, same, visible, -⟩ := (Exact.integer first last).head
  have read := number?_decimal closed first last
  rw [write] at same ⊢
  cases starts.symm.trans same
  rw [starts] at read ⊢
  rw [value?]
  simp only [skipBlanks, List.cons_append, List.dropWhile_cons, visible,
    Bool.false_eq_true, if_false]
  split
  case h_7 => exact read
  all_goals
    rename_i other
    cases other
    simp at sign

/-- An array is read back if its items are. -/
theorem readBack_array {items : List Json} (each : ∀ item ∈ items, Exact item)
    (back : ∀ item ∈ items, ReadBack item) : ReadBack (.array items) := by
  refine readBack_of_succ fun fuel rest enough _ => ?_
  rw [toList_write_array] at enough ⊢
  rw [List.length_cons, List.length_append, List.length_singleton] at enough
  cases items with
  | nil => simp [itemsText, writeItems, value?, skipBlanks, isBlank]
  | cons item others =>
    have read : items? fuel (itemsText (item :: others) ++ ']' :: rest) =
      some (item :: others, rest) :=
      items?_itemsText (List.cons_ne_nil item others) back (by omega)
    obtain ⟨c, more, starts, visible, goes_on⟩ := (each item (by simp)).head
    obtain ⟨more, begins⟩ : ∃ more, itemsText (item :: others) = c :: more := by
      cases others <;> simp [itemsText, writeItems, starts]
    rw [begins, List.cons_append] at read
    rw [begins, List.cons_append, List.cons_append, List.cons_append, List.append_assoc,
      value?_items _ visible goes_on]
    exact Option.map_eq_some_iff.mpr ⟨_, read, rfl⟩

/-- An object whose fields stand in order is read back if the values of its fields are. -/
theorem readBack_object {fields : List (String × Json)} (sorted : fields.Pairwise (·.1 < ·.1))
    (back : ∀ field ∈ fields, ReadBack field.2) : ReadBack (.object fields) := by
  refine readBack_of_succ fun fuel rest enough _ => ?_
  rw [toList_write_object] at enough ⊢
  rw [List.length_cons, List.length_append, List.length_singleton] at enough
  cases fields with
  | nil => simp [fieldsText, writeFields, value?, skipBlanks, isBlank]
  | cons field others =>
    have read : fields? fuel (fieldsText (field :: others) ++ '\x7d' :: rest) =
      some (field :: others, rest) :=
      fields?_fieldsText (List.cons_ne_nil field others) back (by omega)
    obtain ⟨more, begins⟩ : ∃ more, fieldsText (field :: others) = '"' :: more := by
      cases others <;> simp [fieldsText, writeFields, toList_writeText]
    rw [begins, List.cons_append] at read
    rw [begins, List.cons_append, List.cons_append, List.cons_append, List.append_assoc,
      value?_fields, ← ofFields_of_sorted sorted]
    exact Option.map_eq_some_iff.mpr ⟨_, read, rfl⟩

/-- By induction on how the value is made up: whatever its parts are read back in, they are read
back in the whole. -/
theorem Exact.readBack {json : Json} (exact : Exact json) : ReadBack json := by
  induction exact with
  | null =>
    refine readBack_of_succ fun fuel rest _ _ => ?_
    have word : "ull".length = 3 := rfl
    simp [write, value?, skipBlanks, isBlank, word?, word]
  | boolean b =>
    refine readBack_of_succ fun fuel rest _ _ => ?_
    have falseWord : "alse".length = 4 := rfl
    have trueWord : "rue".length = 3 := rfl
    cases b <;> simp [write, value?, skipBlanks, isBlank, word?, falseWord, trueWord]
  | integer first last => exact readBack_integer first last
  | text content =>
    refine readBack_of_succ fun fuel rest _ _ => ?_
    obtain ⟨tail, starts, read⟩ := textTail?_content content rest
    rw [write, starts, value?]
    simp [skipBlanks, isBlank, read]
  | array each back => exact readBack_array each back
  | object sorted each back => exact readBack_object sorted back

/-- A value without doubles is read back from its document. -/
theorem parse?_write {json : Json} (exact : Exact json) : parse? (write json) = some json := by
  have read :=
    exact.readBack ((write json).toList.length + 1) [] (Nat.lt_succ_self _) (by simp [Closed])
  rw [List.append_nil] at read
  rw [parse?]
  simp only [read, Option.bind_eq_bind, Option.bind_some]
  rfl

end SigValidation.Json
