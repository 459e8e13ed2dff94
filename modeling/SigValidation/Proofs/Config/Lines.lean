import Mathlib.Data.List.Forall2
import Mathlib.Data.List.TakeWhile
import SigValidation.Proofs.Config.Grammar
/-!
# Lines of configuration files

The readers of keys and of whole lines find what the grammar says. A line that is read at all is
blank, or it assigns a value to a key, and never both; so the assignments of a document are those of
its statements, the lines that are not blank, one each and in order.
-/
namespace SigValidation.Toml

section Characters

instance : DecidablePred IsBlankChar := fun _ => inferInstanceAs (Decidable (_ ∨ _))

instance : DecidablePred IsBareChar := fun _ => inferInstanceAs (Decidable (_ ∨ _))

/-- A text falls into the characters of a class and what follows them, in one way. -/
theorem takeWhile_dropWhile_eq_iff {p : Char → Bool} {text front rest : List Char} :
    text.takeWhile p = front ∧ text.dropWhile p = rest ↔
      text = front ++ rest ∧ (∀ c ∈ front, p c = true) ∧ ∀ c ∈ rest.head?, p c = false := by
  constructor
  · rintro ⟨rfl, rfl⟩
    refine ⟨List.takeWhile_append_dropWhile.symm, fun _ => List.mem_takeWhile_imp,
      fun c first => ?_⟩
    have stop := List.head?_dropWhile_not p text
    rw [Option.mem_def.mp first] at stop
    simpa using stop
  · rintro ⟨rfl, all, stop⟩
    rw [List.takeWhile_append_of_pos all, List.dropWhile_append_of_pos all]
    cases rest with
    | nil => simp
    | cons c rest => simp [stop c rfl]

theorem blanks_takeWhile (text : List Char) : Blanks (text.takeWhile isBlank) :=
  fun _ member => isBlank_iff.mp (List.mem_takeWhile_imp member)

/-- Blanks are skipped up to the first other character. -/
theorem Blanks.skip {blanks rest : List Char} (h : Blanks blanks)
    (stop : ∀ c ∈ rest.head?, ¬IsBlankChar c) : (blanks ++ rest).dropWhile isBlank = rest := by
  have cut := takeWhile_dropWhile_eq_iff.mpr ⟨rfl, fun c member => isBlank_iff.mpr (h c member),
    fun c first => Bool.eq_false_iff.mpr fun blank => stop c first (isBlank_iff.mp blank)⟩
  exact cut.2

end Characters

section Keys

variable {text key rest : List Char}

theorem isDigit_sixteen_iff {c : Char} {d : Nat} : IsDigit 16 c d ↔ Bytes.hexValue? c = some d := by
  rw [hexValue?_eq_some_iff, IsDigit, and_iff_right_iff_imp]
  rintro (lower | upper)
  · exact (List.getElem?_eq_some_iff.mp lower).1
  · exact (List.getElem?_eq_some_iff.mp upper).1

theorem foldlM_hexValue?_eq_some_iff {digits : List Char} {start n : Nat} :
    digits.foldlM (fun n c => (Bytes.hexValue? c).map (16 * n + ·)) start = some n ↔
      ∃ ds, List.Forall₂ (IsDigit 16) digits ds ∧ ds.foldl (fun n d => 16 * n + d) start = n := by
  induction digits generalizing start with
  | nil => simp [List.forall₂_nil_left_iff]
  | cons c digits ih =>
    rw [List.foldlM_cons]
    constructor
    · intro read
      obtain ⟨next, first, others⟩ := Option.bind_eq_some_iff.mp read
      obtain ⟨d, digit, rfl⟩ := Option.map_eq_some_iff.mp first
      obtain ⟨ds, goes_on, total⟩ := ih.mp others
      exact ⟨d :: ds, .cons (isDigit_sixteen_iff.mpr digit) goes_on, total⟩
    · rintro ⟨_, spelled, total⟩
      cases spelled with
      | cons digit goes_on =>
        rw [isDigit_sixteen_iff.mp digit, Option.map_some]
        exact ih.mpr ⟨_, goes_on, total⟩

/-- A character is read from the digits of its code point only. -/
theorem codeChar?_eq_some_iff {digits : List Char} {c : Char} :
    codeChar? digits = some c ↔ CodePoint digits c := by
  constructor
  · intro read
    obtain ⟨n, found, read⟩ := Option.bind_eq_some_iff.mp read
    obtain ⟨ds, spelled, rfl⟩ := foldlM_hexValue?_eq_some_iff.mp found
    split at read
    case isTrue valid =>
      cases read
      exact ⟨ds, spelled, by rw [numeral_eq_foldl, Char.ofNat, dif_pos valid]; rfl⟩
    case isFalse => cases read
  · rintro ⟨ds, spelled, total⟩
    rw [numeral_eq_foldl] at total
    have valid : c.toNat.isValidChar := c.valid
    rw [codeChar?, foldlM_hexValue?_eq_some_iff.mpr ⟨ds, spelled, total⟩, Option.bind_eq_bind,
      Option.bind_some, if_pos valid, Char.ofNat_toNat]

/-- After the mark stand the digits of a code point, as many as belong to it. -/
theorem quotedChar_of_codeChar? {mark c : Char} {count : Nat} {after : List Char}
    (known : mark = 'u' ∧ count = 4 ∨ mark = 'U' ∧ count = 8)
    (read : (if after.length < count then none else
      (codeChar? (after.take count)).map fun c => (c, after.drop count)) = some (c, rest)) :
    QuotedChar ('\\' :: mark :: after) c rest := by
  split at read
  case isTrue => cases read
  case isFalse long =>
    obtain ⟨_, code, same⟩ := Option.map_eq_some_iff.mp read
    cases same
    have taken : (after.take count).length = count := List.length_take_of_le (by omega)
    have shown : QuotedChar ('\\' :: mark :: (after.take count ++ after.drop count)) c
        (after.drop count) :=
      .coded (by rwa [taken]) (codeChar?_eq_some_iff.mp code)
    rwa [List.take_append_drop] at shown

theorem quotedChar?_eq_some_iff {c : Char} :
    quotedChar? text = some (c, rest) ↔ QuotedChar text c rest := by
  constructor
  · intro read
    unfold quotedChar? at read
    split at read
    case h_1 | h_11 => cases read
    case h_2 | h_3 | h_4 | h_5 | h_6 | h_7 | h_8 =>
      cases read
      exact .escaped (by decide)
    case h_9 => exact quotedChar_of_codeChar? (Or.inl ⟨rfl, rfl⟩) read
    case h_10 => exact quotedChar_of_codeChar? (Or.inr ⟨rfl, rfl⟩) read
    case h_12 no_escape =>
      split at read
      case isFalse => cases read
      case isTrue plain =>
        cases read
        rw [Bool.and_eq_true, isPlain_iff, bne_iff_ne] at plain
        exact .plain plain.1 plain.2 no_escape
  · intro h
    cases h with
    | plain plain no_quote no_escape =>
      rw [quotedChar?]
      · simp [isPlain_iff.mpr plain, no_quote]
      all_goals simp [no_escape]
    | escaped stands_for =>
      simp only [escapes, List.mem_cons, Prod.mk.injEq, List.not_mem_nil, or_false] at stands_for
      rcases stands_for with ⟨rfl, rfl⟩ | ⟨rfl, rfl⟩ | ⟨rfl, rfl⟩ | ⟨rfl, rfl⟩ | ⟨rfl, rfl⟩ |
        ⟨rfl, rfl⟩ | ⟨rfl, rfl⟩
      all_goals rfl
    | coded count code =>
      have read := codeChar?_eq_some_iff.mpr code
      rcases count with ⟨rfl, count⟩ | ⟨rfl, count⟩
      all_goals simp [quotedChar?, ← count, read]

theorem QuotedChar.length_lt {c : Char} (h : QuotedChar text c rest) :
    rest.length < text.length := by
  cases h <;> simp +arith

theorem quoted_of_quotedKey? {fuel : Nat} (read : quotedKey? fuel text = some (key, rest)) :
    Quoted text key rest := by
  fun_induction quotedKey? fuel text generalizing key with
  | case1 => cases read
  | case2 =>
    cases read
    exact .closed
  | case3 fuel text open_ ih =>
    obtain ⟨⟨c, after⟩, first, read⟩ := Option.bind_eq_some_iff.mp read
    obtain ⟨⟨others, left⟩, goes_on, same⟩ := Option.bind_eq_some_iff.mp read
    cases same
    exact .next (quotedChar?_eq_some_iff.mp first) (ih _ goes_on)

theorem Quoted.read (h : Quoted text key rest) {fuel : Nat} (enough : text.length < fuel) :
    quotedKey? fuel text = some (key, rest) := by
  induction h generalizing fuel with
  | closed =>
    cases fuel with
    | zero => cases enough
    | succ fuel => rfl
  | @next c text after key rest first goes_on ih =>
    cases fuel with
    | zero => cases enough
    | succ fuel =>
      have others := @ih fuel (by have := first.length_lt; omega)
      rw [quotedKey?, quotedChar?_eq_some_iff.mpr first]
      · simp [others]
      · rintro rest rfl
        cases first with
        | plain _ no_quote _ => exact no_quote rfl

/-- Keys begin with no blank, and not with the mark of a comment. -/
theorem Key.head (h : Key text key rest) :
    ∃ c more, text = c :: more ∧ ¬IsBlankChar c ∧ c ≠ '#' := by
  cases h with
  | bare nonempty chars ended =>
    obtain ⟨c, others, rfl⟩ := List.exists_cons_of_ne_nil nonempty
    have first : IsBareChar c := chars c (by simp)
    refine ⟨c, others ++ rest, rfl, ?_, ?_⟩
    · rintro (rfl | rfl) <;> exact absurd first (by decide)
    · rintro rfl
      exact absurd first (by decide)
  | literal chars => exact ⟨_, _, rfl, by decide, by decide⟩
  | quoted quoted => exact ⟨_, _, rfl, by decide, by decide⟩

/-- A text is cut after the characters of a bare key. -/
theorem bare_cut_iff :
    text.takeWhile isKeyChar = key ∧ text.dropWhile isKeyChar = rest ↔
      text = key ++ rest ∧ (∀ c ∈ key, IsBareChar c) ∧ ∀ c ∈ rest.head?, ¬IsBareChar c := by
  rw [takeWhile_dropWhile_eq_iff]
  simp only [← isKeyChar_iff, Bool.not_eq_true]

/-- A text is cut at the quote that ends a literal key. -/
theorem literal_cut_iff :
    text.takeWhile (fun c => c != '\'' && isPlain c) = key ∧
      text.dropWhile (fun c => c != '\'' && isPlain c) = '\'' :: rest ↔
    text = key ++ '\'' :: rest ∧ ∀ c ∈ key, IsPlainChar c ∧ c ≠ '\'' := by
  rw [takeWhile_dropWhile_eq_iff]
  simp [← isPlain_iff, and_comm]

/-- The reader of keys finds the key a text begins with, in each of the three forms. -/
theorem key?_eq_some_iff : key? text = some (key, rest) ↔ Key text key rest := by
  constructor
  · intro read
    unfold key? at read
    split at read
    case h_1 => exact .quoted (quoted_of_quotedKey? read)
    case h_2 =>
      split at read
      case h_1 inner stopped =>
        cases read
        obtain ⟨same, chars⟩ := literal_cut_iff.mp ⟨rfl, stopped⟩
        have shown : Key ('\'' :: (_ ++ '\'' :: rest)) _ rest := .literal chars
        rwa [← same] at shown
      case h_2 => cases read
    case h_3 =>
      split at read
      case isTrue => cases read
      case isFalse nonempty =>
        cases read
        obtain ⟨same, chars, ended⟩ := bare_cut_iff.mp ⟨rfl, rfl⟩
        have shown := Key.bare (by simpa using nonempty) chars ended
        rwa [← same] at shown
  · intro h
    cases h with
    | @bare key rest nonempty chars ended =>
      obtain ⟨front, left⟩ := bare_cut_iff.mpr ⟨rfl, chars, ended⟩
      obtain ⟨c, others, rfl⟩ := List.exists_cons_of_ne_nil nonempty
      have first : IsBareChar c := chars c (by simp)
      unfold key?
      split
      case h_1 quoted | h_2 quoted =>
        cases quoted
        exact absurd first (by decide)
      case h_3 => rw [front, left]; rfl
    | @literal key rest chars =>
      obtain ⟨front, left⟩ := (@literal_cut_iff _ key rest).mpr ⟨rfl, chars⟩
      simp only [key?, left, front]
    | quoted quoted => exact quoted.read (by simp)

end Keys

section Lines

variable {line : List Char} {key other : String} {value : Value}

theorem isLineEnd_iff : isLineEnd line = true ↔ BlankLine line := by
  constructor
  · intro ended
    rw [← List.takeWhile_append_dropWhile (p := isBlank) (l := line)]
    unfold isLineEnd at ended
    split at ended
    case h_1 nothing =>
      rw [nothing, List.append_nil]
      exact .blanks (blanks_takeWhile line)
    case h_2 text comment =>
      rw [comment]
      exact .comment (blanks_takeWhile line) fun c member =>
        isPlain_iff.mp (List.all_eq_true.mp ended c member)
    case h_3 => cases ended
  · intro h
    cases h with
    | blanks skipped =>
      have nothing : line.dropWhile isBlank = [] :=
        List.dropWhile_eq_nil_iff.mpr fun c member => isBlank_iff.mpr (skipped c member)
      rw [isLineEnd, nothing]
    | comment skipped plain =>
      rw [isLineEnd, skipped.skip (by simp; decide)]
      exact List.all_eq_true.mpr fun c member => isPlain_iff.mpr (plain c member)

instance : DecidablePred BlankLine := fun _ => decidable_of_iff _ isLineEnd_iff

theorem Key.skip {indent text key rest : List Char} (h : Key text key rest)
    (indented : Blanks indent) : (indent ++ text).dropWhile isBlank = text := by
  obtain ⟨c, more, rfl, visible, -⟩ := h.head
  exact indented.skip fun d first => by cases first; exact visible

theorem begins_iff :
    Begins line key ↔ (key? (line.dropWhile isBlank)).map Prod.fst = some key.toList := by
  rw [Option.map_eq_some_iff]
  constructor
  · rintro ⟨indented, begins⟩
    rw [begins.skip indented]
    exact ⟨(_, _), key?_eq_some_iff.mpr begins, rfl⟩
  · rintro ⟨⟨name, rest⟩, read, rfl⟩
    rw [← List.takeWhile_append_dropWhile (p := isBlank) (l := line)]
    exact .intro (blanks_takeWhile line) (key?_eq_some_iff.mp read)

instance : Decidable (Begins line key) := decidable_of_iff _ begins_iff.symm

/-- A line begins with at most one key. -/
theorem Begins.unique (h : Begins line key) (h' : Begins line other) : key = other := by
  rw [begins_iff] at h h'
  rw [h] at h'
  exact String.toList_inj.mp (Option.some.inj h')

theorem Begins.not_blank (h : Begins line key) : ¬BlankLine line := by
  cases h with
  | intro indented begins =>
    rw [← isLineEnd_iff, isLineEnd, begins.skip indented]
    obtain ⟨c, more, rfl, -, no_comment⟩ := begins.head
    simp [no_comment]

/-- A line that assigns begins with its key. -/
theorem Assigns.begins (h : Assigns line key value) : Begins line key := by
  cases h with
  | intro indented _ _ begins => exact .intro indented begins

/-- A value is one word, and ends where its line ends or a blank or a comment follows. -/
theorem ValueText.cut {text trail : List Char} (h : ValueText text value)
    (ended : BlankLine trail) :
    (text ++ trail).takeWhile isValueChar = text ∧
    (text ++ trail).dropWhile isValueChar = trail := by
  refine takeWhile_dropWhile_eq_iff.mpr ⟨rfl, ?_, ?_⟩
  · cases h with
    | yes | no => exact List.all_eq_true.mp (by decide)
    | integer spelled lower upper =>
      have all : integerChars.all isValueChar = true := by decide
      exact fun c member => List.all_eq_true.mp all c (spelled.chars c member)
  · have blank {c : Char} (h : IsBlankChar c) : isValueChar c = false := by
      rcases h with rfl | rfl <;> decide
    cases ended with
    | blanks skipped => exact fun c first => blank (skipped c (List.mem_of_head? first))
    | @comment blanks text skipped plain =>
      cases blanks with
      | nil => simp; decide
      | cons d blanks => simpa using blank (skipped d (by simp))

/-- No value begins with a blank. -/
theorem ValueText.skip {blanks text trail : List Char} (h : ValueText text value)
    (skipped : Blanks blanks) : (blanks ++ (text ++ trail)).dropWhile isBlank = text ++ trail := by
  refine skipped.skip ?_
  cases h with
  | yes | no => simp; decide
  | integer spelled lower upper =>
    obtain ⟨c, others, rfl⟩ := List.exists_cons_of_ne_nil spelled.ne_nil
    have none : integerChars.any isBlank = false := by decide
    simpa [← isBlank_iff] using List.any_eq_false.mp none c (spelled.chars c (by simp))

/-- A line without an assignment is accepted exactly if it is blank. -/
theorem line?_eq_none_iff : line? line = some none ↔ BlankLine line := by
  rw [← isLineEnd_iff]
  constructor
  · intro read
    unfold line? at read
    split at read
    case isTrue ended => exact ended
    case isFalse =>
      obtain ⟨⟨name, rest⟩, begins, read⟩ := Option.bind_eq_some_iff.mp read
      simp only at read
      split at read
      case h_2 => cases read
      case h_1 given sign =>
        obtain ⟨found, spelled, read⟩ := Option.bind_eq_some_iff.mp read
        split at read <;> cases read
  · intro ended
    rw [line?, if_pos ended]

/-- An assignment is read exactly from the lines that make it. -/
theorem line?_eq_some_iff : line? line = some (some (key, value)) ↔ Assigns line key value := by
  constructor
  · intro read
    unfold line? at read
    split at read
    case isTrue => cases read
    case isFalse =>
      obtain ⟨⟨name, rest⟩, begins, read⟩ := Option.bind_eq_some_iff.mp read
      simp only at read
      split at read
      case h_2 => cases read
      case h_1 given sign =>
        obtain ⟨found, spelled, read⟩ := Option.bind_eq_some_iff.mp read
        split at read
        case isFalse => cases read
        case isTrue ended =>
          cases read
          have goes_on : rest = rest.takeWhile isBlank ++ '=' :: (given.takeWhile isBlank ++
              ((given.dropWhile isBlank).takeWhile isValueChar ++
                (given.dropWhile isBlank).dropWhile isValueChar)) := by
            rw [List.takeWhile_append_dropWhile, List.takeWhile_append_dropWhile,
              ← sign, List.takeWhile_append_dropWhile]
          rw [← String.toList_ofList (l := name), goes_on] at begins
          rw [← List.takeWhile_append_dropWhile (p := isBlank) (l := line)]
          exact .intro (blanks_takeWhile line) (blanks_takeWhile rest) (blanks_takeWhile given)
            (key?_eq_some_iff.mp begins) (value?_eq_some_iff.mp spelled) (isLineEnd_iff.mp ended)
  · intro h
    have goes_on : ¬isLineEnd line = true :=
      fun ended => h.begins.not_blank (isLineEnd_iff.mp ended)
    cases h with
    | @intro indent text before after spelled trail _ _ indented before_sign
      after_sign begins given ended =>
      have sign : (before ++ '=' :: (after ++ (spelled ++ trail))).dropWhile isBlank =
          '=' :: (after ++ (spelled ++ trail)) := before_sign.skip (by simp; decide)
      obtain ⟨word, left⟩ := given.cut ended
      simp [line?, goes_on, begins.skip indented, key?_eq_some_iff.mpr begins, sign,
        given.skip after_sign, word, left, value?_eq_some_iff.mpr given, isLineEnd_iff.mpr ended]

/-- A line assigns at most once. -/
theorem Assigns.unique {found : Value} (h : Assigns line key value)
    (h' : Assigns line other found) : (key, value) = (other, found) := by
  rw [← line?_eq_some_iff] at h h'
  rw [h] at h'
  exact Option.some.inj (Option.some.inj h')

/-- A key without quotes and a value, with one blank before and one after the sign. -/
theorem Assigns.of_bare {token : List Char} (nonempty : key.toList ≠ [])
    (bare : key.toList.all isKeyChar = true) (given : ValueText token value) :
    Assigns (key.toList ++ ' ' :: '=' :: ' ' :: token) key value := by
  have chars : ∀ c ∈ key.toList, IsBareChar c :=
    fun c member => isKeyChar_iff.mp (List.all_eq_true.mp bare c member)
  have none_skipped : Blanks [] := fun c member => absurd member (by simp)
  have one_skipped : Blanks [' '] := fun c member => Or.inl (by simpa using member)
  have shown :
      Assigns ([] ++ (key.toList ++ ([' '] ++ '=' :: ([' '] ++ (token ++ []))))) key value :=
    .intro none_skipped one_skipped one_skipped (.bare nonempty chars (by simp; decide)) given
      (.blanks none_skipped)
  simpa using shown

theorem Assigns.lt {n : Int} (h : Assigns line key (.integer n)) : n < signedBound := by
  cases h with
  | intro _ _ _ _ given =>
    cases given with
    | integer spelled lower upper => exact upper

end Lines

/-- The lines of a document that are more than blanks and comments. -/
def statements (document : String) : List (List Char) :=
  (Text.lines (withoutMark document.toList)).filter fun line => ¬BlankLine line

theorem mapM_line?_eq_some_iff (lines : List (List Char)) (found : List (String × Value)) :
    (∃ entries, lines.mapM line? = some entries ∧ entries.filterMap id = found) ↔
      List.Forall₂
        (fun line t => Assigns line t.1 t.2) (lines.filter fun line => ¬BlankLine line) found := by
  induction lines generalizing found with
  | nil => simp [eq_comm]
  | cons line lines ih =>
    by_cases blank : BlankLine line
    · rw [List.filter_cons_of_neg (by simpa using blank), ← ih, List.mapM_cons,
        line?_eq_none_iff.mpr blank]
      cases lines.mapM line? <;> simp
    · rw [List.filter_cons_of_pos (by simpa using blank), List.forall₂_cons_left_iff,
        List.mapM_cons]
      have own (t : String × Value) : Assigns line t.1 t.2 ↔ line? line = some (some t) :=
        line?_eq_some_iff.symm
      cases read : line? line with
      | none => simp [own, read]
      | some entry =>
        cases entry with
        | none => exact absurd (line?_eq_none_iff.mp read) blank
        | some t =>
          simp only [own, read, ← ih]
          cases lines.mapM line? <;> simp [eq_comm]

/-- The assignments of a document are those of its statements, one each and in order. -/
theorem assignments?_eq_some_iff {document : String} {found : List (String × Value)} :
    assignments? document = some found ↔
      List.Forall₂ (fun line t => Assigns line t.1 t.2) (statements document) found := by
  rw [assignments?, Option.map_eq_some_iff]
  exact mapM_line?_eq_some_iff _ found

section Assignments

variable {lines : List (List Char)} {found : List (String × Value)}

/-- A key is assigned if a statement begins with it. -/
theorem mem_keys_iff_begins
    (written : List.Forall₂ (fun line t => Assigns line t.1 t.2) lines found) {key : String} :
    key ∈ found.map Prod.fst ↔ ∃ line ∈ lines, Begins line key := by
  induction written with
  | nil => simp
  | @cons line t lines found first others ih =>
    have own : key = t.1 ↔ Begins line key :=
      ⟨fun same => same ▸ first.begins, fun begins => begins.unique first.begins⟩
    simp [ih, own]

/-- No key is assigned twice exactly if no two statements begin with one key. -/
theorem nodup_keys_iff (written : List.Forall₂ (fun line t => Assigns line t.1 t.2) lines found) :
    (found.map Prod.fst).Nodup ↔
      lines.Pairwise fun first second => ∀ key, Begins first key → ¬Begins second key := by
  induction written with
  | nil => simp
  | @cons line t lines found first others ih =>
    rw [List.map_cons, List.nodup_cons, List.pairwise_cons, ih, mem_keys_iff_begins others]
    refine and_congr_left fun _ =>
      ⟨fun new second member key begins again => ?_, fun new shared => ?_⟩
    · rw [begins.unique first.begins] at again
      exact new ⟨second, member, again⟩
    · obtain ⟨second, member, again⟩ := shared
      exact new second member t.1 first.begins again

theorem exists_mem_of_forall₂ {α β : Type} {R : α → β → Prop} {as : List α} {bs : List β}
    (h : List.Forall₂ R as bs) : ∀ b ∈ bs, ∃ a ∈ as, R a b := by
  induction h with
  | nil => simp
  | cons first others ih =>
    refine List.forall_mem_cons.mpr ⟨⟨_, List.mem_cons_self, first⟩, fun b member => ?_⟩
    obtain ⟨a, held, related⟩ := ih b member
    exact ⟨a, List.mem_cons_of_mem _ held, related⟩

theorem exists_found (all : ∀ line ∈ lines, ∃ t : String × Value, Assigns line t.1 t.2) :
    ∃ found, List.Forall₂ (fun line (t : String × Value) => Assigns line t.1 t.2) lines found := by
  induction lines with
  | nil => exact ⟨[], .nil⟩
  | cons line lines ih =>
    obtain ⟨found, written⟩ := ih fun line member => all line (by simp [member])
    obtain ⟨t, given⟩ := all line (by simp)
    exact ⟨t :: found, .cons given written⟩

end Assignments

end SigValidation.Toml
