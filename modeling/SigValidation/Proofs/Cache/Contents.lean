import Mathlib.Data.List.Dedup
import Mathlib.Data.List.Perm.Subperm
import SigValidation.Proofs.Cache.Calm
/-!
# What a bounded cache holds

The two operations of the bounded cache in closed form, and what they do to its entries. Nothing
enters the cache but what is set, whichever entries the draws evict. As long as there is room for
all entries of a run nothing leaves it either, and the cache holds what it began with and, behind
it, the new entries that were set.
-/
namespace SigValidation

theorem mem_of_mem_swapRemove {α : Type} {entries : List α} {position : Nat} {x : α}
    (h : x ∈ swapRemove entries position) : x ∈ entries := by
  unfold swapRemove at h
  split at h
  · rename_i last found
    split at h
    · rcases List.mem_or_eq_of_mem_set (List.dropLast_subset _ h) with member | rfl
      · exact member
      · exact List.mem_of_getLast? found
    · exact h
  · exact h

/-- Removing by swapping loses the entry at the position and no other; only the order of the rest
changes. -/
theorem swapRemove_perm {α : Type} {entries : List α} {position : Nat}
    (inside : position < entries.length) :
    (swapRemove entries position).Perm (entries.eraseIdx position) := by
  obtain ⟨front, last, rfl⟩ :=
    (List.eq_nil_or_concat entries).resolve_left (by rintro rfl; cases inside)
  rw [List.concat_eq_append] at *
  rw [List.length_append, List.length_singleton] at inside
  have removed : swapRemove (front ++ [last]) position =
    ((front ++ [last]).set position last).dropLast := by
    simp [swapRemove, inside]
  rw [removed]
  by_cases at_end : position = front.length
  · rw [at_end]
    simp [List.eraseIdx_append_of_length_le]
  · have before : position < front.length := by omega
    rw [List.set_append_left _ _ before, List.dropLast_concat,
      List.eraseIdx_append_of_lt_length before]
    exact (List.set_perm_cons_eraseIdx before last).trans (List.perm_append_singleton _ _).symm

namespace BoundedCache

def afterGet (entry : Fingerprint) (erase : Bool) (c : BoundedCache) : BoundedCache :=
  if erase && entry ∈ c.entries then
    { c with entries := swapRemove c.entries (c.entries.idxOf entry) }
  else c

def insert (entry : Fingerprint) (c : BoundedCache) : BoundedCache :=
  if c.maxEntries = 0 ∨ entry ∈ c.entries then c
  else if c.entries.length < c.maxEntries then { c with entries := c.entries ++ [entry] }
  else
    { c with
      entries := swapRemove c.entries (c.draws 0 % c.entries.length) ++ [entry]
      draws := fun i => c.draws (i + 1) }

/-- A lookup answers whether the entry is held. -/
theorem yields_get (entry : Fingerprint) (erase : Bool) (c : BoundedCache) :
    (get entry erase).Yields c (decide (entry ∈ c.entries)) (c.afterGet entry erase) := by
  refine ⟨[], ?_⟩
  rw [run_get, afterGet]
  by_cases held : entry ∈ c.entries <;> cases erase <;> simp [held]

/-- Setting an entry never draws from an empty range: a cache that is switched on and full holds
something. -/
theorem yields_insert (entry : Fingerprint) (c : BoundedCache) :
    (set entry).Yields c () (c.insert entry) := by
  refine ⟨[], ?_⟩
  rw [run_set, insert]
  by_cases idle : c.maxEntries = 0 ∨ entry ∈ c.entries
  · rw [if_pos idle, if_pos idle]
  · rw [if_neg idle, if_neg idle, run_evict]
    by_cases room : c.entries.length < c.maxEntries
    · simp only [if_pos room]
    · have switched_on : c.maxEntries ≠ 0 := fun off => idle (Or.inl off)
      have held : c.entries.length ≠ 0 := by omega
      simp only [if_neg room, if_neg held]

instance : CalmCache BoundedCache where
  get_answers entry erase c := ⟨_, _, yields_get entry erase c⟩
  set_answers entry c := ⟨_, yields_insert entry c⟩

@[simp] theorem put_eq (entry : Fingerprint) (c : BoundedCache) : put entry c = c.insert entry :=
  (yields_insert entry c).state_eq

@[simp] theorem afterGet_keep (entry : Fingerprint) (c : BoundedCache) :
    c.afterGet entry false = c := by
  simp [afterGet]

theorem afterGet_of_not_mem {entry : Fingerprint} {erase : Bool} {c : BoundedCache}
    (missed : entry ∉ c.entries) : c.afterGet entry erase = c := by
  simp [afterGet, missed]

/-- What is found and erased is gone, and nothing else is. -/
theorem afterGet_perm {entry : Fingerprint} {c : BoundedCache} (held : entry ∈ c.entries) :
    (c.afterGet entry true).entries.Perm (c.entries.erase entry) := by
  have erased : (c.afterGet entry true).entries = swapRemove c.entries (c.entries.idxOf entry) := by
    simp [afterGet, held]
  rw [erased, ← List.eraseIdx_idxOf_eq_erase]
  exact swapRemove_perm (List.idxOf_lt_length_of_mem held)

/-- No lookup makes the cache longer, or holds an entry twice. -/
theorem afterGet_subperm (entry : Fingerprint) (erase : Bool) (c : BoundedCache) :
    (c.afterGet entry erase).entries.Subperm c.entries := by
  cases erase with
  | false => rw [afterGet_keep]
  | true =>
    by_cases held : entry ∈ c.entries
    · exact (afterGet_perm held).subperm.trans (List.erase_subperm _ _)
    · rw [afterGet_of_not_mem held]

/-- Erasing an entry takes one occurrence of it away. -/
theorem count_afterGet (entry x : Fingerprint) (erase : Bool) (c : BoundedCache) :
    (c.afterGet entry erase).entries.count x =
      c.entries.count x - if erase = true ∧ x = entry then 1 else 0 := by
  cases erase with
  | false => simp
  | true =>
    by_cases held : entry ∈ c.entries
    · rw [(afterGet_perm held).count_eq, List.count_erase]
      simp only [beq_iff_eq, true_and, eq_comm (a := entry)]
    · rw [afterGet_of_not_mem held]
      split
      · rename_i same
        rw [same.2, List.count_eq_zero_of_not_mem held]
      · rfl

@[simp] theorem maxEntries_afterGet (entry : Fingerprint) (erase : Bool) (c : BoundedCache) :
    (c.afterGet entry erase).maxEntries = c.maxEntries := by
  unfold afterGet
  split <;> rfl

@[simp] theorem maxEntries_insert (entry : Fingerprint) (c : BoundedCache) :
    (c.insert entry).maxEntries = c.maxEntries := by
  unfold insert
  split
  · rfl
  · split <;> rfl

theorem insert_of_mem {entry : Fingerprint} {c : BoundedCache} (held : entry ∈ c.entries) :
    c.insert entry = c :=
  if_pos (Or.inr held)

theorem insert_of_room {entry : Fingerprint} {c : BoundedCache} (missed : entry ∉ c.entries)
    (room : c.entries.length < c.maxEntries) :
    c.insert entry = { c with entries := c.entries ++ [entry] } := by
  have busy : ¬(c.maxEntries = 0 ∨ entry ∈ c.entries) := by
    rintro (off | held)
    · omega
    · exact missed held
  rw [insert, if_neg busy, if_pos room]

/-- Where there is room, setting an entry evicts nothing. -/
theorem mem_insert_iff {entry x : Fingerprint} {c : BoundedCache}
    (room : entry ∉ c.entries → c.entries.length < c.maxEntries) :
    x ∈ (c.insert entry).entries ↔ x = entry ∨ x ∈ c.entries := by
  by_cases held : entry ∈ c.entries
  · rw [insert_of_mem held]
    refine ⟨Or.inr, ?_⟩
    rintro (rfl | old)
    · exact held
    · exact old
  · rw [insert_of_room held (room held), List.mem_append, List.mem_singleton, or_comm]

/-- Where there is room, setting an entry adds the one occurrence that may be missing. -/
theorem count_insert {entry : Fingerprint} {c : BoundedCache}
    (room : entry ∉ c.entries → c.entries.length < c.maxEntries) (x : Fingerprint) :
    (c.insert entry).entries.count x = if x = entry then max 1 (c.entries.count x)
      else c.entries.count x := by
  by_cases held : entry ∈ c.entries
  · rw [insert_of_mem held]
    split
    · rename_i same
      rw [same]
      exact (Nat.max_eq_right (List.count_pos_iff.mpr held)).symm
    · rfl
  · rw [insert_of_room held (room held), List.count_append]
    split
    · rename_i same
      rw [same, List.count_eq_zero_of_not_mem held]
      simp
    · rename_i other
      simp [Ne.symm other]

/-- A new entry that meets a full cache takes the place of the entry drawn. -/
theorem insert_perm_of_full {entry : Fingerprint} {c : BoundedCache} (missed : entry ∉ c.entries)
    (full : c.entries.length = c.maxEntries) (switched_on : 0 < c.maxEntries) :
    (c.insert entry).entries.Perm (entry :: c.entries.eraseIdx (c.draws 0 % c.entries.length)) := by
  have busy : ¬(c.maxEntries = 0 ∨ entry ∈ c.entries) := by
    rintro (off | held)
    · omega
    · exact missed held
  have inside : c.draws 0 % c.entries.length < c.entries.length := Nat.mod_lt _ (by omega)
  rw [insert, if_neg busy, if_neg (by omega)]
  exact (List.perm_append_singleton _ _).trans ((swapRemove_perm inside).cons entry)

theorem mem_of_mem_afterGet {entry x : Fingerprint} {erase : Bool} {c : BoundedCache}
    (h : x ∈ (c.afterGet entry erase).entries) : x ∈ c.entries := by
  unfold afterGet at h
  split at h
  · exact mem_of_mem_swapRemove h
  · exact h

/-- Nothing enters the cache but the entry that is set. -/
theorem mem_of_mem_insert {entry x : Fingerprint} {c : BoundedCache}
    (h : x ∈ (c.insert entry).entries) : x = entry ∨ x ∈ c.entries := by
  unfold insert at h
  split at h
  · exact Or.inr h
  · split at h
    · rcases List.mem_append.mp h with old | new
      · exact Or.inr old
      · exact Or.inl (List.mem_singleton.mp new)
    · rcases List.mem_append.mp h with old | new
      · exact Or.inr (mem_of_mem_swapRemove old)
      · exact Or.inl (List.mem_singleton.mp new)

theorem mem_of_mem_putAll {entries : List Fingerprint} {x : Fingerprint} {c : BoundedCache}
    (h : x ∈ (putAll entries c).entries) : x ∈ entries ∨ x ∈ c.entries := by
  induction entries generalizing c with
  | nil => exact Or.inr h
  | cons entry rest ih =>
    rcases ih (c := put entry c) h with later | now
    · exact Or.inl (List.mem_cons_of_mem _ later)
    · rw [put_eq] at now
      rcases mem_of_mem_insert now with rfl | old
      · exact Or.inl List.mem_cons_self
      · exact Or.inr old

/-- The cache has room for those of the entries that it does not hold. -/
def HasRoomFor (entries : List Fingerprint) (c : BoundedCache) : Prop :=
  c.entries.length + (entries.filter (· ∉ c.entries)).dedup.length ≤ c.maxEntries

theorem HasRoomFor.of_length_le {entries : List Fingerprint} {c : BoundedCache}
    (h : c.entries.length + entries.length ≤ c.maxEntries) : c.HasRoomFor entries := by
  have fewer := (List.dedup_sublist (entries.filter (· ∉ c.entries))).length_le
  have new := List.length_filter_le (· ∉ c.entries) entries
  unfold HasRoomFor
  omega

/-- The cache holds no more than there was room for at the start, though it may have lost some of it
since. -/
structure Within (names : List Fingerprint) (start c : BoundedCache) : Prop where
  subperm : c.entries.Subperm (start.entries ++ (names.filter (· ∉ start.entries)).dedup)
  same_limit : c.maxEntries = start.maxEntries

namespace Within

variable {names : List Fingerprint} {start c d : BoundedCache} {entry x : Fingerprint}

theorem refl (names : List Fingerprint) (start : BoundedCache) : Within names start start where
  subperm := (List.sublist_append_left _ _).subperm
  same_limit := rfl

/-- The entry that comes in was counted when room was made for the names. -/
theorem cons_subperm (h : Within names start c) (member : entry ∈ names)
    (missing : entry ∉ c.entries) :
    (entry :: c.entries).Subperm (start.entries ++ (names.filter (· ∉ start.entries)).dedup) := by
  refine List.cons_subperm_of_not_mem_of_mem missing ?_ h.subperm
  rw [List.mem_append, List.mem_dedup, List.mem_filter, decide_eq_true_iff]
  exact (Classical.em (entry ∈ start.entries)).imp_right fun new => ⟨member, new⟩

/-- There is room for every name that is not held yet. -/
theorem length_lt (h : Within names start c) (room : start.HasRoomFor names)
    (member : entry ∈ names) (missing : entry ∉ c.entries) : c.entries.length < c.maxEntries := by
  have bound := (h.cons_subperm member missing).length_le
  rw [List.length_cons, List.length_append] at bound
  rw [h.same_limit]
  exact Nat.lt_of_lt_of_le bound room

theorem afterGet (h : Within names start c) (entry : Fingerprint) (erase : Bool) :
    Within names start (c.afterGet entry erase) where
  subperm := (afterGet_subperm entry erase c).trans h.subperm
  same_limit := by rw [maxEntries_afterGet, h.same_limit]

theorem insert (h : Within names start c) (room : start.HasRoomFor names) (member : entry ∈ names) :
    Within names start (c.insert entry) where
  subperm := by
    by_cases held : entry ∈ c.entries
    · rw [insert_of_mem held]
      exact h.subperm
    · rw [insert_of_room held (h.length_lt room member held)]
      exact (List.perm_append_singleton _ _).subperm.trans (h.cons_subperm member held)
  same_limit := by rw [maxEntries_insert, h.same_limit]

/-- Entries among the names are put into the cache without any eviction. -/
theorem putAll (h : Within names start c) (room : start.HasRoomFor names) {more : List Fingerprint}
    (members : more ⊆ names) : Within names start (SigValidation.putAll more c) := by
  induction more generalizing c with
  | nil => exact h
  | cons entry rest ih =>
    rw [SigValidation.putAll, put_eq]
    exact ih (h.insert room (members List.mem_cons_self)) fun _ later =>
      members (List.mem_cons_of_mem _ later)

/-- What is set in two caches with room leaves them alike where they were. -/
theorem count_putAll_congr (h : Within names start c) (h' : Within names start d)
    (room : start.HasRoomFor names) {more : List Fingerprint} (members : more ⊆ names)
    (same : c.entries.count x = d.entries.count x) :
    (SigValidation.putAll more c).entries.count x =
      (SigValidation.putAll more d).entries.count x := by
  induction more generalizing c d with
  | nil => exact same
  | cons entry rest ih =>
    have member := members List.mem_cons_self
    rw [SigValidation.putAll, SigValidation.putAll, put_eq, put_eq]
    refine ih (h.insert room member) (h'.insert room member)
      (fun _ later => members (List.mem_cons_of_mem _ later)) ?_
    rw [count_insert (h.length_lt room member), count_insert (h'.length_lt room member), same]

/-- What is set leaves other entries alone. -/
theorem count_putAll_of_not_mem (h : Within names start c) (room : start.HasRoomFor names)
    {more : List Fingerprint} (members : more ⊆ names) (other : x ∉ more) :
    (SigValidation.putAll more c).entries.count x = c.entries.count x := by
  induction more generalizing c with
  | nil => rfl
  | cons entry rest ih =>
    have member := members List.mem_cons_self
    rw [List.mem_cons, not_or] at other
    rw [SigValidation.putAll, put_eq,
      ih (h.insert room member) (fun _ later => members (List.mem_cons_of_mem _ later))
      other.2, count_insert (h.length_lt room member), if_neg other.1]

end Within

/-- The cache is the given one with some of the entries added. -/
structure Grown (entries : List Fingerprint) (start c : BoundedCache) (added : List Fingerprint) :
    Prop where
  entries_eq : c.entries = start.entries ++ added
  nodup : added.Nodup
  new : ∀ x ∈ added, x ∈ entries ∧ x ∉ start.entries
  same_limit : c.maxEntries = start.maxEntries

namespace Grown

variable {entries added : List Fingerprint} {start c : BoundedCache} {entry : Fingerprint}

theorem refl (entries : List Fingerprint) (start : BoundedCache) :
    Grown entries start start [] where
  entries_eq := by simp
  nodup := List.nodup_nil
  new := by simp
  same_limit := rfl

/-- Those added are different entries, and room was for all. -/
theorem within (h : Grown entries start c added) : Within entries start c where
  subperm := by
    have new : added ⊆ (entries.filter (· ∉ start.entries)).dedup := by
      intro x hx
      rw [List.mem_dedup, List.mem_filter, decide_eq_true_iff]
      exact h.new x hx
    rw [h.entries_eq]
    exact (List.subperm_append_left _).mpr (h.nodup.subperm new)
  same_limit := h.same_limit

/-- Where there is room nothing is evicted. -/
theorem insert (h : Grown entries start c added) (room : start.HasRoomFor entries)
    (member : entry ∈ entries) :
    (∃ more, Grown entries start (c.insert entry) more) ∧
      ∀ x, x ∈ (c.insert entry).entries ↔ x = entry ∨ x ∈ c.entries := by
  refine ⟨?_, fun x => mem_insert_iff (h.within.length_lt room member)⟩
  by_cases held : entry ∈ c.entries
  · rw [insert_of_mem held]
    exact ⟨added, h⟩
  · rw [insert_of_room held (h.within.length_lt room member held)]
    rw [h.entries_eq, List.mem_append, not_or] at held
    refine ⟨added ++ [entry], ?_, ?_, ?_, h.same_limit⟩
    · rw [h.entries_eq, List.append_assoc]
    · exact List.nodup_append_comm.mp (List.nodup_cons.mpr ⟨held.2, h.nodup⟩)
    · intro x hx
      rcases List.mem_append.mp hx with old | new
      · exact h.new x old
      · cases List.mem_singleton.mp new
        exact ⟨member, held.1⟩

theorem putAll (h : Grown entries start c added) (room : start.HasRoomFor entries)
    {more : List Fingerprint} (members : more ⊆ entries) :
    (∃ all, Grown entries start (putAll more c) all) ∧
      ∀ x, x ∈ (SigValidation.putAll more c).entries ↔ x ∈ more ∨ x ∈ c.entries := by
  induction more generalizing c added with
  | nil => exact ⟨⟨added, h⟩, fun x => by simp [SigValidation.putAll]⟩
  | cons entry rest ih =>
    obtain ⟨⟨next, grown⟩, holds⟩ := h.insert room (members List.mem_cons_self)
    obtain ⟨all, later⟩ := ih grown fun _ hx => members (List.mem_cons_of_mem _ hx)
    rw [SigValidation.putAll, put_eq]
    refine ⟨all, fun x => ?_⟩
    rw [later x, holds x, List.mem_cons, or_assoc, or_left_comm]

end Grown

end BoundedCache

end SigValidation
