import SigValidation.Proofs.Cache.Contents
/-!
# The bounded cache as a set

Removing by swapping reorders the entries, and a full cache gives up the entry at a position that is
drawn. Whatever is drawn, a cache that began empty is a set within its limit after every sequence of
calls, no call panics, and each call does to the set what it should (`Governed`).

An entry stands if it was set and no lookup has erased it since. Every entry that is held stands,
and only an eviction takes an entry away that stands. So where no new entry ever meets a full cache,
exactly the standing entries are held (`performAll_governed`).
-/
namespace SigValidation.BoundedCache

inductive Operation where
  | get (entry : Fingerprint) (erase : Bool)
  | set (entry : Fingerprint)
  deriving DecidableEq

inductive Deed where
  | looked (entry : Fingerprint) (erase found : Bool)
  | stored (entry : Fingerprint)
  deriving DecidableEq

/-- The entry was set, and no lookup has found and erased it since. -/
def Stands (entry : Fingerprint) (past : List Deed) : Prop :=
  ∃ before since, past = before ++ .stored entry :: since ∧ .looked entry true true ∉ since

def Deed.operation : Deed → Operation
  | looked entry erase _ => .get entry erase
  | stored entry => .set entry

namespace Operation

def perform : Operation → Routine Notice BoundedCache Deed
  | get entry erase => do return .looked entry erase (← BoundedCache.get entry erase)
  | set entry => do
    BoundedCache.set entry
    return .stored entry

/-- The call sets a new entry in a full cache. -/
def Crowds : Operation → BoundedCache → Prop
  | get .., _ => False
  | set entry, c => entry ∉ c.entries ∧ c.maxEntries ≤ c.entries.length

end Operation

def performAll : List Operation → Routine Notice BoundedCache (List Deed)
  | [] => return []
  | operation :: rest => do
    let deed ← operation.perform
    let deeds ← performAll rest
    return deed :: deeds

/-- None of the calls, made one after the other, sets a new entry in a full cache. -/
def Uncrowded : List Operation → BoundedCache → Prop
  | [], _ => True
  | operation :: rest, c => ¬operation.Crowds c ∧ Uncrowded rest (operation.perform.run c).state

instance (operation : Operation) (c : BoundedCache) : Decidable (operation.Crowds c) :=
  match operation with
  | .get .. => inferInstanceAs (Decidable False)
  | .set entry => inferInstanceAs (Decidable (entry ∉ c.entries ∧ c.maxEntries ≤ c.entries.length))

instance decidableUncrowded :
    (operations : List Operation) → (c : BoundedCache) → Decidable (Uncrowded operations c)
  | [], _ => .isTrue trivial
  | operation :: rest, c =>
    have := decidableUncrowded rest (operation.perform.run c).state
    inferInstanceAs (Decidable (¬operation.Crowds c ∧ _))

section Stands

variable {x : Fingerprint} {past : List Deed} {deed : Deed}

theorem not_stands_nil (x : Fingerprint) : ¬Stands x [] := by
  rintro ⟨before, since, split, _⟩
  simp at split

/-- Only setting the entry makes it stand, and only a lookup that erases it ends that. -/
theorem stands_concat_iff :
    Stands x (past ++ [deed]) ↔ deed = .stored x ∨ Stands x past ∧ deed ≠ .looked x true true := by
  constructor
  · rintro ⟨before, since, split, kept⟩
    rcases List.eq_nil_or_concat since with rfl | ⟨earlier, last, rfl⟩
    · exact Or.inl (List.singleton_inj.mp (List.append_inj' split rfl).2)
    · rw [List.concat_eq_append] at split kept
      have regrouped : past ++ [deed] = (before ++ .stored x :: earlier) ++ [last] := by
        rw [split, List.append_assoc, List.cons_append]
      obtain ⟨rfl, same⟩ := List.append_inj' regrouped rfl
      cases List.singleton_inj.mp same
      rw [List.mem_append, not_or] at kept
      exact Or.inr ⟨⟨before, earlier, rfl, kept.1⟩,
        fun erased => kept.2 (List.mem_singleton.mpr erased.symm)⟩
  · rintro (rfl | ⟨⟨before, since, rfl, kept⟩, spared⟩)
    · exact ⟨past, [], rfl, List.not_mem_nil⟩
    · refine ⟨before, since ++ [deed], by rw [List.append_assoc, List.cons_append], ?_⟩
      rw [List.mem_append, not_or]
      exact ⟨kept, fun last => spared (List.mem_singleton.mp last).symm⟩

end Stands

section Calls

variable {c : BoundedCache} {entry x : Fingerprint}

/-- A lookup takes away the entry it erases and no other. -/
theorem mem_afterGet_iff (nodup : c.entries.Nodup) (erase : Bool) :
    x ∈ (c.afterGet entry erase).entries ↔ x ∈ c.entries ∧ ¬(erase = true ∧ x = entry) := by
  cases erase with
  | false => simp
  | true =>
    by_cases held : entry ∈ c.entries
    · rw [(afterGet_perm held).mem_iff, nodup.mem_erase_iff, and_comm]
      simp
    · rw [afterGet_of_not_mem held]
      refine ⟨fun old => ⟨old, ?_⟩, And.left⟩
      rintro ⟨_, rfl⟩
      exact held old

theorem nodup_insert (nodup : c.entries.Nodup) (within : c.entries.length ≤ c.maxEntries) :
    (c.insert entry).entries.Nodup := by
  by_cases idle : c.maxEntries = 0 ∨ entry ∈ c.entries
  · rw [insert, if_pos idle]
    exact nodup
  · obtain ⟨switched_on, missed⟩ := not_or.mp idle
    by_cases room : c.entries.length < c.maxEntries
    · rw [insert_of_room missed room]
      exact List.nodup_append_comm.mp (List.nodup_cons.mpr ⟨missed, nodup⟩)
    · have replaced := insert_perm_of_full missed (by omega) (Nat.pos_of_ne_zero switched_on)
      have rest := List.eraseIdx_sublist c.entries (c.draws 0 % c.entries.length)
      rw [replaced.nodup_iff, List.nodup_cons]
      exact ⟨fun left => missed (rest.subset left), nodup.sublist rest⟩

/-- Setting an entry keeps the cache within its limit. -/
theorem length_insert_le (within : c.entries.length ≤ c.maxEntries) :
    (c.insert entry).entries.length ≤ c.maxEntries := by
  by_cases idle : c.maxEntries = 0 ∨ entry ∈ c.entries
  · rw [insert, if_pos idle]
    exact within
  · obtain ⟨switched_on, missed⟩ := not_or.mp idle
    by_cases room : c.entries.length < c.maxEntries
    · rw [insert_of_room missed room, List.length_append, List.length_singleton]
      exact room
    · have replaced := insert_perm_of_full missed (by omega) (Nat.pos_of_ne_zero switched_on)
      have inside : c.draws 0 % c.entries.length < c.entries.length := Nat.mod_lt _ (by omega)
      rw [replaced.length_eq, List.length_cons, List.length_eraseIdx_of_lt inside]
      omega

/-- The victim is drawn from a range that is not empty, so its position is inside. -/
theorem yields_draw {below : Nat} (positive : 0 < below) (c : BoundedCache) :
    (draw below).Yields c (c.draws 0 % below) { c with draws := fun i => c.draws (i + 1) } := by
  unfold draw
  rw [if_neg (Nat.ne_of_gt positive)]
  apply (Routine.yields_state c).bind
  exact (Routine.yields_modify _ c).bind (Routine.yields_pure _ _)

end Calls

/-- What holds of a cache that was empty with the limit, after some calls. -/
structure Kept (limit : Nat) (past : List Deed) (c : BoundedCache) : Prop where
  same_limit : c.maxEntries = limit
  nodup : c.entries.Nodup
  length_le : c.entries.length ≤ limit
  stands : ∀ x ∈ c.entries, Stands x past

namespace Kept

variable {limit : Nat} {past : List Deed} {c : BoundedCache} {entry : Fingerprint}

theorem fresh (limit : Nat) (draws : Nat → Nat) : Kept limit [] { maxEntries := limit, draws } where
  same_limit := rfl
  nodup := List.nodup_nil
  length_le := Nat.zero_le limit
  stands x held := by cases held

/-- What a lookup erases stands no longer. -/
theorem get (h : Kept limit past c) (erase : Bool) :
    Kept limit
      (past ++ [.looked entry erase (decide (entry ∈ c.entries))]) (c.afterGet entry erase) where
  same_limit := (maxEntries_afterGet ..).trans h.same_limit
  nodup := by
    obtain ⟨rest, same, fewer⟩ := afterGet_subperm entry erase c
    exact same.nodup_iff.mp (h.nodup.sublist fewer)
  length_le := Nat.le_trans (afterGet_subperm entry erase c).length_le h.length_le
  stands x held := by
    obtain ⟨old, spared⟩ := (mem_afterGet_iff h.nodup erase).mp held
    refine stands_concat_iff.mpr (Or.inr ⟨h.stands x old, fun erased => spared ?_⟩)
    obtain ⟨same, erases, _⟩ := (Deed.looked.injEq ..).mp erased
    exact ⟨erases, same.symm⟩

/-- Setting an entry keeps what holds of the cache, whichever entry is drawn. -/
theorem set (h : Kept limit past c) : Kept limit (past ++ [.stored entry]) (c.insert entry) where
  same_limit := (maxEntries_insert ..).trans h.same_limit
  nodup := nodup_insert h.nodup (h.same_limit ▸ h.length_le)
  length_le := h.same_limit ▸ length_insert_le (h.same_limit ▸ h.length_le)
  stands x held := by
    rw [stands_concat_iff]
    rcases mem_of_mem_insert held with rfl | old
    · exact Or.inl rfl
    · exact Or.inr ⟨h.stands x old, by simp⟩

/-- Every call is answered. Unless it sets a new entry in a full cache, what stands stays held. -/
theorem perform (h : Kept limit past c) (operation : Operation) :
    ∃ deed after, operation.perform.Yields c deed after ∧ deed.operation = operation ∧
      Kept limit (past ++ [deed]) after ∧
      (¬operation.Crowds c → (∀ x, Stands x past → x ∈ c.entries) →
        ∀ x, Stands x (past ++ [deed]) → x ∈ after.entries) := by
  cases operation with
  | get entry erase =>
    refine ⟨_, _, (yields_get entry erase c).bind (Routine.yields_pure _ _), rfl, h.get erase, ?_⟩
    intro _ complete x stands
    rcases stands_concat_iff.mp stands with stored | ⟨stood, spared⟩
    · cases stored
    · have held := complete x stood
      refine (mem_afterGet_iff h.nodup erase).mpr ⟨held, ?_⟩
      rintro ⟨rfl, rfl⟩
      exact spared (by rw [decide_eq_true held])
  | set entry =>
    refine ⟨_, _, (yields_insert entry c).bind (Routine.yields_pure _ _), rfl, h.set, ?_⟩
    intro uncrowded complete x stands
    rw [mem_insert_iff fun missed => Nat.lt_of_not_le fun full => uncrowded ⟨missed, full⟩]
    rcases stands_concat_iff.mp stands with stored | ⟨stood, _⟩
    · cases stored
      exact Or.inl rfl
    · exact Or.inr (complete x stood)

/-- What holds of a cache holds after any calls, and none of them panics. -/
theorem performAll (h : Kept limit past c) (operations : List Operation) :
    ∃ deeds after,
      (performAll operations).Yields c deeds after ∧ deeds.map Deed.operation = operations ∧
      Kept limit (past ++ deeds) after ∧
      (Uncrowded operations c → (∀ x, Stands x past → x ∈ c.entries) →
        ∀ x, Stands x (past ++ deeds) → x ∈ after.entries) := by
  induction operations generalizing past c with
  | nil =>
    refine ⟨[], c, Routine.yields_pure _ c, rfl, ?_⟩
    rw [List.append_nil]
    exact ⟨h, fun _ complete => complete⟩
  | cons operation rest ih =>
    obtain ⟨deed, between, first, named, kept, stays⟩ := h.perform operation
    obtain ⟨deeds, after, later, names, keeps, staying⟩ := ih kept
    rw [List.append_assoc] at keeps staying
    refine ⟨deed :: deeds, after, first.bind (later.bind (Routine.yields_pure _ _)), ?_, keeps, ?_⟩
    · rw [List.map_cons, named, names]
    · rintro ⟨free, uncrowded⟩ complete
      rw [first.state_eq] at uncrowded
      exact staying uncrowded (stays free complete)

end Kept

/-- The cache is a set of entries within the limit, and the calls treat it so. -/
structure Governed (limit : Nat) (past : List Deed) (c : BoundedCache) : Prop where
  nodup : c.entries.Nodup
  length_le : c.entries.length ≤ limit
  get_missed : ∀ entry ∉ c.entries, ∀ erase, (get entry erase).Yields c false c
  get_kept : ∀ entry ∈ c.entries, (get entry false).Yields c true c
  /-- A lookup that erases removes what it finds and nothing else. -/
  get_erased : ∀ entry ∈ c.entries, ∃ after, (get entry true).Yields c true after ∧
    after.entries.Perm (c.entries.erase entry)
  /-- What a lookup finds was set, and no lookup has erased it since. -/
  found_stands : ∀ entry erase after, (get entry erase).Yields c true after → Stands entry past
  set_held : ∀ entry ∈ c.entries, (set entry).Yields c () c
  set_room : ∀ entry ∉ c.entries, c.entries.length < limit →
    ∃ after, (set entry).Yields c () after ∧ after.entries = c.entries ++ [entry]
  /-- In a full cache a new entry takes the place of exactly one other, at the position drawn. -/
  set_full : ∀ entry ∉ c.entries, 0 < limit → c.entries.length = limit →
    0 < c.entries.length ∧ ∃ victim drawn after, (draw c.entries.length).Yields c victim drawn ∧
      victim < c.entries.length ∧ (set entry).Yields c () after ∧
      after.entries.Perm (entry :: c.entries.eraseIdx victim)
  /-- With a limit of zero the cache is switched off. -/
  off : limit = 0 → c.entries = [] ∧ ∀ entry, (set entry).Yields c () c

theorem Kept.governed {limit : Nat} {past : List Deed} {c : BoundedCache} (h : Kept limit past c) :
    Governed limit past c where
  nodup := h.nodup
  length_le := h.length_le
  get_missed entry missed erase := by
    have looked := yields_get entry erase c
    rw [decide_eq_false missed, afterGet_of_not_mem missed] at looked
    exact looked
  get_kept entry held := by
    have looked := yields_get entry false c
    rw [decide_eq_true held, afterGet_keep] at looked
    exact looked
  get_erased entry held := by
    have looked := yields_get entry true c
    rw [decide_eq_true held] at looked
    exact ⟨_, looked, afterGet_perm held⟩
  found_stands entry erase after found := by
    have answered := (yields_get entry erase c).outcome_eq.symm.trans found.outcome_eq
    exact h.stands entry (of_decide_eq_true (Except.ok.inj answered))
  set_held entry held := by
    have stored := yields_insert entry c
    rw [insert_of_mem held] at stored
    exact stored
  set_room entry missed room := by
    have stored := yields_insert entry c
    rw [insert_of_room missed (h.same_limit ▸ room)] at stored
    exact ⟨_, stored, rfl⟩
  set_full entry missed positive full := by
    have held : 0 < c.entries.length := full ▸ positive
    have replaced :=
      insert_perm_of_full missed (full.trans h.same_limit.symm) (h.same_limit ▸ positive)
    exact ⟨held, _, _, _, yields_draw held c, Nat.mod_lt _ held, yields_insert entry c, replaced⟩
  off limit_eq := by
    have empty : c.entries = [] := List.eq_nil_of_length_eq_zero (by have := h.length_le; omega)
    refine ⟨empty, fun entry => ?_⟩
    have stored := yields_insert entry c
    have same : c.insert entry = c := if_pos (Or.inl (h.same_limit.trans limit_eq))
    rw [same] at stored
    exact stored

/-- For every limit, all draws and every sequence of calls on a cache that began empty: no call
panics, and the cache that is left is a set within the limit, in which only entries are found that
stand. If no call set a new entry in a full cache, it holds all that stand. -/
theorem performAll_governed (limit : Nat) (draws : Nat → Nat) (operations : List Operation) :
    ∃ past c, (performAll operations).Yields { maxEntries := limit, draws } past c ∧
      past.map Deed.operation = operations ∧ Governed limit past c ∧
      (Uncrowded operations { maxEntries := limit, draws } → ∀ x, x ∈ c.entries ↔
        Stands x past) := by
  obtain ⟨past, c, run, named, kept, complete⟩ := (Kept.fresh limit draws).performAll operations
  rw [List.nil_append] at kept complete
  refine ⟨past, c, run, named, kept.governed, fun uncrowded x => ⟨kept.stands x, ?_⟩⟩
  exact complete uncrowded (fun y stands => absurd stands (not_stands_nil y)) x

/-- An entry is erased in time for the next to find room. -/
theorem performAll_governed_erasing :
    let entry := fun n => Fingerprint.mk (Bytes32.replicate n)
    let operations := [Operation.set (entry 1), .set (entry 2), .get (entry 1) true, .set (entry 3)]
    let start : BoundedCache := { maxEntries := 2 }
    Uncrowded operations start ∧
      ∃ past c, (performAll operations).Yields start past c ∧ past.map Deed.operation = operations ∧
        Governed 2 past c ∧
        (∀ x, x ∈ c.entries ↔ Stands x past) ∧ c.entries = [entry 2, entry 3] := by
  intro entry operations start
  have uncrowded : Uncrowded operations start := by decide +kernel
  obtain ⟨past, c, run, named, governed, exactly⟩ := performAll_governed 2 (fun _ => 0) operations
  refine ⟨uncrowded, past, c, run, named, governed, exactly uncrowded, ?_⟩
  rw [← run.state_eq]
  decide +kernel

end SigValidation.BoundedCache
