import Mathlib.Data.List.Induction
import Mathlib.Data.List.Nodup
import SigValidation.Proofs.Config.Lines
/-!
# Configuration files

A document is a configuration exactly if its statements are assignments to the two keys, to each at
most once and with a value of its type; a key that is not assigned leaves its default. The document
a configuration is written as is one of these, so a limit that fits a TOML integer survives, and
whatever was accepted once can be written and accepted again.
-/
namespace SigValidation

namespace Toml

/-- The key of the truth value. -/
def batchKey : String := "batch_schnorr"

/-- The key of the integer. -/
def limitKey : String := "sig_cache_max_entries"

end Toml

namespace Config

open Toml

def batchLine (c : Config) : List Char :=
  batchKey.toList ++ ' ' :: '=' :: ' ' :: (if c.batchSchnorr then "true" else "false").toList

def limitLine (c : Config) : List Char :=
  limitKey.toList ++ ' ' :: '=' :: ' ' :: Nat.toDigits 10 c.cacheLimit.toNat

theorem assigns_batchLine (c : Config) :
    Assigns c.batchLine batchKey (.boolean c.batchSchnorr) := by
  have given : ValueText (if c.batchSchnorr then "true" else "false").toList
    (.boolean c.batchSchnorr) := by
    cases c.batchSchnorr with
    | false => exact .no
    | true => exact .yes
  exact .of_bare (by decide) (by decide) given

theorem assigns_limitLine {c : Config} (fits : c.cacheLimit.toNat < signedBound) :
    Assigns c.limitLine limitKey (.integer c.cacheLimit.toNat) := by
  have given : ValueText (Nat.toDigits 10 c.cacheLimit.toNat) (.integer c.cacheLimit.toNat) :=
    .integer (.plain (decimalText_toDigits _)) (by omega) (Int.ofNat_lt.mpr fits)
  exact .of_bare (by decide) (by decide) given

theorem plain_batchLine (c : Config) : ∀ d ∈ c.batchLine, d ≠ '\n' ∧ d ≠ '\r' := by
  have all : c.batchLine.all (fun d => d != '\n' && d != '\r') = true := by
    unfold batchLine
    cases c.batchSchnorr <;> decide
  simpa using all

theorem plain_limitLine (c : Config) : ∀ d ∈ c.limitLine, d ≠ '\n' ∧ d ≠ '\r' := by
  have front : (limitKey.toList ++ [' ', '=', ' ']).all (fun d => d != '\n' && d != '\r') =
    true := by decide
  intro d member
  have parts : d ∈ limitKey.toList ++ [' ', '=', ' '] ∨ d ∈ Nat.toDigits 10 c.cacheLimit.toNat := by
    simpa [limitLine, or_assoc] using member
  rcases parts with key | digit
  · simpa using List.all_eq_true.mp front d key
  · have shown := Text.isDigit_of_mem_toDigits digit
    constructor <;> rintro rfl <;> cases shown

/-- The document is these two lines, each with its end. -/
theorem toList_of_toToml? {c : Config} {document : String} (written : c.toToml? = some document) :
    document.toList = c.batchLine ++ '\n' :: (c.limitLine ++ '\n' :: []) := by
  have front : "batch_schnorr = ".toList = batchKey.toList ++ [' ', '=', ' '] := by decide
  have middle : "\nsig_cache_max_entries = ".toList =
      '\n' :: (limitKey.toList ++ [' ', '=', ' ']) := by decide
  unfold toToml? at written
  split at written
  · cases written
    simp [front, middle, batchLine, limitLine]
  · cases written

theorem lines_of_toToml? {c : Config} {document : String} (written : c.toToml? = some document) :
    Text.lines (withoutMark document.toList) = [c.batchLine, c.limitLine, []] := by
  have unmarked (rest : List Char) : withoutMark (c.batchLine ++ rest) = c.batchLine ++ rest := rfl
  rw [toList_of_toToml? written, unmarked, Text.lines_append_lineFeed _ c.plain_batchLine,
    Text.lines_append_lineFeed _ c.plain_limitLine]
  rfl

/-- One of the two keys with a value of its type. -/
def IsKnown (t : String × Value) : Prop :=
  (∃ b, t = (batchKey, .boolean b)) ∨ ∃ n : Nat, t = (limitKey, .integer n)

/-- Only the two keys are assigned, each at most once, a truth value to the one and a number to the
other. -/
structure Proper (found : List (String × Value)) : Prop where
  known : ∀ t ∈ found, IsKnown t
  distinct : (found.map Prod.fst).Nodup

/-- One assignment more is a known one to another key. -/
theorem proper_append_iff {found : List (String × Value)} {t : String × Value} :
    Proper (found ++ [t]) ↔ Proper found ∧ IsKnown t ∧ t.1 ∉ found.map Prod.fst := by
  have known : (∀ u ∈ found ++ [t], IsKnown u) ↔ (∀ u ∈ found, IsKnown u) ∧ IsKnown t := by
    simp [or_imp, forall_and]
  have distinct : ((found ++ [t]).map Prod.fst).Nodup ↔
    t.1 ∉ found.map Prod.fst ∧ (found.map Prod.fst).Nodup := by
    rw [List.map_append, List.map_singleton, ← List.concat_eq_append, List.nodup_concat]
  constructor
  · intro h
    obtain ⟨others, own⟩ := known.mp h.known
    obtain ⟨new, old⟩ := distinct.mp h.distinct
    exact ⟨⟨others, old⟩, own, new⟩
  · rintro ⟨h, own, new⟩
    exact ⟨known.mpr ⟨h.known, own⟩, distinct.mpr ⟨new, h.distinct⟩⟩

/-- What is set so far is what was assigned so far. -/
structure Assigned.Holds (a : Assigned) (found : List (String × Value)) :
    Prop extends Proper found where
  batch : ∀ value, (batchKey, value) ∈ found ↔ ∃ b, a.batchSchnorr = some b ∧ value = .boolean b
  limit : ∀ value, (limitKey, value) ∈ found ↔ ∃ n, a.cacheLimit = some n ∧ value = .integer n.toNat

/-- A key is assigned if there is a value that is. -/
theorem mem_keys_iff {α : Type} {found : List (String × Value)} {key : String} {set : Option α}
    {value : α → Value} (held : ∀ v, (key, v) ∈ found ↔ ∃ a, set = some a ∧ v = value a) :
    key ∈ found.map Prod.fst ↔ set ≠ none := by
  have some_value : key ∈ found.map Prod.fst ↔ ∃ v, (key, v) ∈ found := by simp
  rw [some_value, Option.ne_none_iff_exists']
  constructor
  · rintro ⟨v, member⟩
    obtain ⟨a, given, -⟩ := (held v).mp member
    exact ⟨a, given⟩
  · rintro ⟨a, given⟩
    exact ⟨value a, (held _).mpr ⟨a, given, rfl⟩⟩

/-- All that one more assignment can come to. -/
theorem Assigned.of_assign? {a next : Assigned} {key : String} {value : Value}
    (assigned : a.assign? key value = some next) :
    (∃ b, (key, value) = (batchKey, .boolean b) ∧ a.batchSchnorr = none ∧
      next = { a with batchSchnorr := some b }) ∨
      ∃ n : Nat, (key, value) = (limitKey, .integer n) ∧ a.cacheLimit = none ∧
        next = { a with cacheLimit := some (UInt64.ofNat n) } := by
  unfold assign? at assigned
  split at assigned
  · rename_i same
    split at assigned
    · rename_i b unset
      cases assigned
      exact Or.inl ⟨b, by rw [same]; rfl, unset, rfl⟩
    · cases assigned
  · split at assigned
    · rename_i same
      split at assigned
      · rename_i n unset
        split at assigned
        · rename_i positive
          cases assigned
          exact Or.inr ⟨n.toNat, by rw [same, Int.toNat_of_nonneg positive]; rfl, unset, rfl⟩
        · cases assigned
      · cases assigned
    · cases assigned

/-- One more assignment keeps to what was assigned. -/
theorem Assigned.Holds.assign {a next : Assigned} {found : List (String × Value)}
    (h : a.Holds found) {key : String} {value : Value} (assigned : a.assign? key value = some next)
    (bounded : ∀ n, value = .integer n → n < signedBound) :
    next.Holds (found ++ [(key, value)]) := by
  have keys : batchKey ≠ limitKey := by decide
  rcases of_assign? assigned with ⟨b, same, unset, rfl⟩ | ⟨n, same, unset, rfl⟩
  · cases same
    have new : batchKey ∉ found.map Prod.fst := fun member => (mem_keys_iff h.batch).mp member unset
    refine ⟨proper_append_iff.mpr ⟨h.toProper, Or.inl ⟨b, rfl⟩, new⟩, fun value => ?_,
      fun value => ?_⟩
    · simp [h.batch, unset]
    · simp [h.limit, keys.symm]
  · cases same
    have new : limitKey ∉ found.map Prod.fst := fun member => (mem_keys_iff h.limit).mp member unset
    have small : n < UInt64.size := by
      have := bounded n rfl
      simp only [signedBound, UInt64.size] at this ⊢
      omega
    refine ⟨proper_append_iff.mpr ⟨h.toProper, Or.inr ⟨n, rfl⟩, new⟩, fun value => ?_,
      fun value => ?_⟩
    · simp [h.batch, keys]
    · simp only [List.mem_append, List.mem_singleton, h.limit, unset]
      simp [UInt64.toNat_ofNat_of_lt' small]

/-- One assignment after another, from none on. -/
def assignAll? (found : List (String × Value)) : Option Assigned :=
  found.foldlM (fun (a : Assigned) (key, value) => a.assign? key value) {}

theorem assignAll?_append (found : List (String × Value)) (t : String × Value) :
    assignAll? (found ++ [t]) = (assignAll? found).bind fun a => a.assign? t.1 t.2 := by
  simp [assignAll?, List.foldlM_append]

/-- Assignments that are all accepted set what they say and nothing more. -/
theorem holds_of_assignAll? {found : List (String × Value)} {a : Assigned}
    (assigned : assignAll? found = some a)
    (bounded : ∀ t ∈ found, ∀ n, t.2 = .integer n → n < signedBound) : a.Holds found := by
  induction found using List.reverseRecOn generalizing a with
  | nil =>
    cases assigned
    exact ⟨⟨by simp, by simp⟩, by simp, by simp⟩
  | append_singleton found t ih =>
    rw [assignAll?_append] at assigned
    obtain ⟨before, first, last⟩ := Option.bind_eq_some_iff.mp assigned
    exact (ih first fun u member => bounded u (by simp [member])).assign last (bounded t (by simp))

/-- Proper assignments are never refused. -/
theorem Proper.assignAll? {found : List (String × Value)} (h : Proper found)
    (bounded : ∀ t ∈ found, ∀ n, t.2 = .integer n → n < signedBound) :
    ∃ a, Config.assignAll? found = some a := by
  induction found using List.reverseRecOn with
  | nil => exact ⟨{}, rfl⟩
  | append_singleton found t ih =>
    obtain ⟨proper, known, new⟩ := proper_append_iff.mp h
    have bounded (u : String × Value) (member : u ∈ found) := bounded u (by simp [member])
    obtain ⟨a, assigned⟩ := ih proper bounded
    have holds := holds_of_assignAll? assigned bounded
    rw [assignAll?_append, assigned, Option.bind_some]
    rcases known with ⟨b, rfl⟩ | ⟨n, rfl⟩
    · have unset : a.batchSchnorr = none := not_not.mp (mt (mem_keys_iff holds.batch).mpr new)
      exact ⟨{ a with batchSchnorr := some b }, by simp [Assigned.assign?, batchKey, unset]⟩
    · have unset : a.cacheLimit = none := not_not.mp (mt (mem_keys_iff holds.limit).mpr new)
      exact ⟨{ a with cacheLimit := some (UInt64.ofNat n) },
        by simp [Assigned.assign?, limitKey, unset]⟩

/-- A document is a configuration: every statement gives one of the two fields its value, no two
begin with one key, and a field whose key begins none has its default. -/
structure Written (document : String) (c : Config) : Prop where
  statement : ∀ line ∈ statements document, Assigns line batchKey (.boolean c.batchSchnorr) ∨
    Assigns line limitKey (.integer c.cacheLimit.toNat)
  distinct : (statements document).Pairwise fun first second =>
    ∀ key, Begins first key → ¬Begins second key
  batch_absent : (∀ line ∈ statements document, ¬Begins line batchKey) →
    c.batchSchnorr = ({} : Config).batchSchnorr
  limit_absent : (∀ line ∈ statements document, ¬Begins line limitKey) →
    c.cacheLimit = ({} : Config).cacheLimit

namespace Written

variable {document : String} {c d : Config}

/-- The statement with the key of a field gives the value of the field. -/
theorem of_batchKey (h : Written document c) {line : List Char}
    (member : line ∈ statements document) (key : Begins line batchKey) :
    Assigns line batchKey (.boolean c.batchSchnorr) := by
  rcases h.statement line member with own | other
  · exact own
  · exact absurd (key.unique other.begins) (by decide)

theorem of_limitKey (h : Written document c) {line : List Char}
    (member : line ∈ statements document) (key : Begins line limitKey) :
    Assigns line limitKey (.integer c.cacheLimit.toNat) := by
  rcases h.statement line member with other | own
  · exact absurd (key.unique other.begins) (by decide)
  · exact own

/-- A document is at most one configuration. -/
theorem unique (hc : Written document c) (hd : Written document d) : c = d := by
  have batch : c.batchSchnorr = d.batchSchnorr := by
    by_cases given : ∃ line ∈ statements document, Begins line batchKey
    · obtain ⟨line, member, key⟩ := given
      simpa using (hc.of_batchKey member key).unique (hd.of_batchKey member key)
    · have absent : ∀ line ∈ statements document, ¬Begins line batchKey := by simpa using given
      rw [hc.batch_absent absent, hd.batch_absent absent]
  have limit : c.cacheLimit.toNat = d.cacheLimit.toNat := by
    by_cases given : ∃ line ∈ statements document, Begins line limitKey
    · obtain ⟨line, member, key⟩ := given
      simpa using (hc.of_limitKey member key).unique (hd.of_limitKey member key)
    · have absent : ∀ line ∈ statements document, ¬Begins line limitKey := by simpa using given
      rw [hc.limit_absent absent, hd.limit_absent absent]
  exact eq_of_fields batch limit

/-- The limit of a document is a limit that can be written. -/
theorem fits (h : Written document c) : c.cacheLimit.toNat < signedBound := by
  by_cases given : ∃ line ∈ statements document, Begins line limitKey
  · obtain ⟨line, member, key⟩ := given
    exact Int.ofNat_lt.mp (h.of_limitKey member key).lt
  · rw [h.limit_absent (by simpa using given)]
    decide

end Written

section Documents

variable {document : String} {found : List (String × Value)} {c : Config}

/-- What the statements of a document set is what the document is written as. -/
theorem Assigned.Holds.written {a : Assigned} (h : a.Holds found)
    (read : List.Forall₂ (fun line t => Assigns line t.1 t.2) (statements document) found) :
    Written document a.toConfig := by
  have keys {key : String} : (∀ line ∈ statements document, ¬Begins line key) ↔
    key ∉ found.map Prod.fst := by
    rw [mem_keys_iff_begins read]
    simp
  refine ⟨fun line member => ?_, (nodup_keys_iff read).mp h.distinct, fun absent => ?_,
    fun absent => ?_⟩
  · obtain ⟨t, held, given⟩ := exists_mem_of_forall₂ read.flip line member
    rcases h.known t held with ⟨b, rfl⟩ | ⟨n, rfl⟩
    · obtain ⟨b, set, same⟩ := (h.batch _).mp held
      refine Or.inl ?_
      rw [toConfig, set, Option.getD_some, ← same]
      exact given
    · obtain ⟨n, set, same⟩ := (h.limit _).mp held
      refine Or.inr ?_
      rw [toConfig, set, Option.getD_some, ← same]
      exact given
  · rw [keys, mem_keys_iff h.batch, not_not] at absent
    rw [toConfig, absent]
    rfl
  · rw [keys, mem_keys_iff h.limit, not_not] at absent
    rw [toConfig, absent]
    rfl

/-- The statements of a configuration are proper assignments. -/
theorem Written.proper (h : Written document c) :
    ∃ found, List.Forall₂ (fun line t => Assigns line t.1 t.2) (statements document) found ∧
      Proper found := by
  obtain ⟨found, read⟩ := exists_found fun line member =>
    (h.statement line member).elim (⟨(batchKey, _), ·⟩) (⟨(limitKey, _), ·⟩)
  refine ⟨found, read, fun t member => ?_, (nodup_keys_iff read).mpr h.distinct⟩
  obtain ⟨line, held, given⟩ := exists_mem_of_forall₂ read t member
  rcases h.statement line held with own | own
  · exact Or.inl ⟨_, given.unique own⟩
  · exact Or.inr ⟨_, given.unique own⟩

theorem bounded_of_statements
    (read : List.Forall₂ (fun line t => Assigns line t.1 t.2) (statements document) found) :
    ∀ t ∈ found, ∀ n, t.2 = .integer n → n < signedBound := by
  rintro ⟨key, value⟩ member n rfl
  obtain ⟨line, -, given⟩ := exists_mem_of_forall₂ read _ member
  exact given.lt

/-- What documents are accepted, and as what. -/
theorem ofToml?_eq_some_iff : ofToml? document = some c ↔ Written document c := by
  constructor
  · intro accepted
    obtain ⟨found, read, accepted⟩ := Option.bind_eq_some_iff.mp accepted
    obtain ⟨a, assigned, same⟩ := Option.bind_eq_some_iff.mp accepted
    cases same
    have read := assignments?_eq_some_iff.mp read
    exact (holds_of_assignAll? assigned (bounded_of_statements read)).written read
  · intro h
    obtain ⟨found, read, proper⟩ := h.proper
    have bounded := bounded_of_statements read
    obtain ⟨a, assigned⟩ := proper.assignAll? bounded
    have same : a.toConfig = c := ((holds_of_assignAll? assigned bounded).written read).unique h
    have read := assignments?_eq_some_iff.mpr read
    rw [assignAll?] at assigned
    simp [ofToml?, read, assigned, same]

theorem toToml?_isSome_iff : c.toToml?.isSome ↔ c.cacheLimit.toNat < signedBound := by
  unfold toToml?
  split <;> simp [*]

/-- What a configuration is written as is that configuration. -/
theorem written_of_toToml? (written : c.toToml? = some document) : Written document c := by
  have fits := toToml?_isSome_iff.mp (by rw [written]; rfl)
  have batch := assigns_batchLine c
  have limit := assigns_limitLine fits
  have keys : batchKey ≠ limitKey := by decide
  have lines : statements document = [c.batchLine, c.limitLine] := by
    have blank : BlankLine [] := .blanks fun c member => absurd member (by simp)
    simp [statements, lines_of_toToml? written, batch.begins.not_blank,
      limit.begins.not_blank, blank]
  refine ⟨fun line member => ?_, ?_, fun absent => ?_, fun absent => ?_⟩
  · rw [lines] at member
    rcases (by simpa using member : line = c.batchLine ∨ line = c.limitLine) with rfl | rfl
    · exact Or.inl batch
    · exact Or.inr limit
  · rw [lines, List.pairwise_pair]
    exact fun key first second =>
      keys ((batch.begins.unique first).trans (second.unique limit.begins))
  · exact absurd batch.begins (absent _ (by simp [lines]))
  · exact absurd limit.begins (absent _ (by simp [lines]))

end Documents

/-- Every configuration with a limit that fits is read back from the document it is written as. The
documents that are configurations are accepted, and no others; each of them can be written and read
again. Refused for one statement alone is a document with a statement that begins with neither key,
with two statements that begin with one key, or with a limit that is no integer or is negative. -/
theorem toml_round_trip :
    (∀ c : Config, c.cacheLimit.toNat < signedBound →
      ∃ document, c.toToml? = some document ∧ ofToml? document = some c) ∧
    (∀ document c, ofToml? document = some c ↔ Written document c) ∧
    (∀ document c, ofToml? document = some c →
      ∃ again, c.toToml? = some again ∧ ofToml? again = some c) ∧
    (∀ document, (∃ line ∈ statements document, ¬Begins line batchKey ∧ ¬Begins line limitKey) →
      ofToml? document = none) ∧
    (∀ document, (∃ first second key, [first, second].Sublist (statements document) ∧
      Begins first key ∧ Begins second key) → ofToml? document = none) ∧
    ∀ document, (∃ line ∈ statements document, Begins line limitKey ∧
      ∀ n : Nat, ¬Assigns line limitKey (.integer n)) → ofToml? document = none := by
  have survives (c : Config) (fits : c.cacheLimit.toNat < signedBound) :
      ∃ document, c.toToml? = some document ∧ ofToml? document = some c := by
    obtain ⟨document, written⟩ := Option.isSome_iff_exists.mp (toToml?_isSome_iff.mpr fits)
    exact ⟨document, written, ofToml?_eq_some_iff.mpr (written_of_toToml? written)⟩
  have refused {document : String} (wrong : ∀ c, ¬Written document c) : ofToml? document = none :=
    Option.eq_none_iff_forall_ne_some.mpr fun c accepted =>
      wrong c (ofToml?_eq_some_iff.mp accepted)
  refine ⟨survives, fun _ _ => ofToml?_eq_some_iff, fun document c accepted => ?_,
    fun document h => refused fun c written => ?_, fun document h => refused fun c written => ?_,
    fun document h => refused fun c written => ?_⟩
  · exact survives c (ofToml?_eq_some_iff.mp accepted).fits
  · obtain ⟨line, member, no_batch, no_limit⟩ := h
    rcases written.statement line member with given | given
    · exact no_batch given.begins
    · exact no_limit given.begins
  · obtain ⟨first, second, key, both, begins, again⟩ := h
    exact List.pairwise_iff_forall_sublist.mp written.distinct both key begins again
  · obtain ⟨line, member, key, wrong⟩ := h
    exact wrong _ (written.of_limitKey member key)

/-- A configuration that survives, a document with one of the keys, and three that are refused. -/
theorem toml_round_trip_samples :
    (∃ document, (⟨false, 64⟩ : Config).toToml? = some document ∧
      ofToml? document = some ⟨false, 64⟩) ∧
    (∃ again, (⟨true, 255⟩ : Config).toToml? = some again ∧ ofToml? again = some ⟨true, 255⟩) ∧
    ofToml? "batch_ecdsa = true" = none ∧
    ofToml? "batch_schnorr = true\n'batch_schnorr' = true" = none ∧
    ofToml? "sig_cache_max_entries = -1" = none := by
  obtain ⟨survives, -, stable, foreign, repeated, wrong⟩ := toml_round_trip
  refine ⟨survives ⟨false, 64⟩ (by decide),
    stable "sig_cache_max_entries = 0xFF # small" ⟨true, 255⟩ (by decide +kernel),
    foreign _ ⟨"batch_ecdsa = true".toList, by decide +kernel⟩,
    repeated _ ⟨"batch_schnorr = true".toList, "'batch_schnorr' = true".toList,
      batchKey, by decide +kernel⟩,
    wrong _ ⟨"sig_cache_max_entries = -1".toList,
      by decide +kernel, by decide +kernel, fun n given => ?_⟩⟩
  have negative : Assigns "sig_cache_max_entries = -1".toList limitKey (.integer (-1)) :=
    line?_eq_some_iff.mp (by decide +kernel)
  have same := given.unique negative
  simp at same

end Config

end SigValidation
