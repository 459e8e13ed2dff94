import SigValidation.Proofs.Pass.QueuePass
/-!
# Histories of a shared cache

Any number of passes may share a cache, one after the other or at once. A history is a sequence of
moves: a pass is begun, one phase of a check is made, or a pass is finished or dropped. Every phase
may come at any time, also a resolution that no lookup precedes, so that the histories include all
interleavings of the passes' checks.

An entry comes into the cache in two ways only (`Earned`): a check was resolved by the cryptography
and stored, or the batch it belongs to was verified, in that very move, with success. Hence a cache
that began empty never holds anything but fingerprints of valid checks (`Site.cache_sound`).
-/
namespace SigValidation

/-- Where a pass stands, apart from its cache. -/
inductive Stage where
  | running (batch : Option (Accumulator BatchContext))
  | over

/-- A cache and the passes begun over it. -/
structure Site where
  cache : BoundedCache
  stages : List Stage := []

inductive Move where
  | start (config : Config)
  | lookup (k : Nat) (r : Request)
  | resolve (k : Nat) (r : Request)
  | finish (k : Nat)
  | drop (k : Nat)

namespace Pass

def waiting (pass : Pass BoundedCache) : List Fingerprint := pass.batch.elim [] Accumulator.waiting

/-- The item is in the batch of the pass, no batch of which has failed, and all items in it are
valid. -/
def Proves (pass : Pass BoundedCache) (item : BatchItem) : Prop :=
  ∃ a, pass.batch = some a ∧ a.context.usable = true ∧
    a.context.items.all BatchItem.isValid = true ∧
    item ∈ a.context.items ∧ item.question.item? = some item

end Pass

namespace Site

def empty (limit : Nat) (draws : Nat → Nat) : Site := { cache := { maxEntries := limit, draws } }

def pass? (site : Site) (k : Nat) : Option (Pass BoundedCache) :=
  match site.stages[k]? with
  | some (.running batch) => some ⟨batch, site.cache⟩
  | _ => none

def waiting (site : Site) (k : Nat) : List Fingerprint := (site.pass? k).elim [] Pass.waiting

/-- Puts a pass back where it was taken from. -/
def withPass (k : Nat) (pass : Pass BoundedCache) (site : Site) : Site :=
  ⟨pass.cache, site.stages.set k (.running pass.batch)⟩

/-- A move of a pass that is over, or that was never begun, does nothing. -/
def perform (move : Move) (site : Site) : Site :=
  match move with
  | .start config =>
    { site with stages := site.stages ++ [.running (Pass.start config site.cache).batch] }
  | .lookup k r =>
    match site.pass? k with
    | some pass => site.withPass k ((Pass.lookup r.base r.store r.question).run pass).state
    | none => site
  | .resolve k r =>
    match site.pass? k with
    | some pass => site.withPass k ((Pass.resolve r.base r.store r.question).run pass).state
    | none => site
  | .finish k =>
    match site.pass? k with
    | some pass => ⟨pass.finish.state, site.stages.set k .over⟩
    | none => site
  | .drop k =>
    match site.pass? k with
    | some pass => ⟨pass.drop.state, site.stages.set k .over⟩
    | none => site

def replay : List Move → Site → Site
  | [], site => site
  | move :: rest, site => replay rest (site.perform move)

end Site

/-- Why an entry comes into the cache with a move. -/
inductive Earned (site : Site) : Move → Fingerprint → Prop where
  /-- A valid check was resolved by the cryptography, through a checker that stores. -/
  | alone {k : Nat} {r : Request} {pass : Pass BoundedCache} (stands : site.pass? k = some pass)
      (undeferred : pass.batch = none ∨ r.question.isSchnorr = false) (stored : r.store = true)
        (valid : r.truth = true) :
      Earned site (.resolve k r) r.question.fingerprint
  /-- The check met a full batch, which was flushed. Of all that waited in it nothing waits any
  more. -/
  | flushed {k : Nat} {r : Request} {pass : Pass BoundedCache} {item : BatchItem}
      (stands : site.pass? k = some pass)
      (proven : pass.Proves item) (cleared : (site.perform (.resolve k r)).waiting k =
        [r.question.fingerprint]) :
      Earned site (.resolve k r) item.question.fingerprint
  /-- The pass was finished with success. -/
  | finished {k : Nat} {pass : Pass BoundedCache} {item : BatchItem}
      (stands : site.pass? k = some pass)
      (proven : pass.Proves item) (good : pass.finish.outcome = .ok (.ok ())) :
      Earned site (.finish k) item.question.fingerprint

/-- The entry is the fingerprint of a check that every base checker accepts. -/
def Backed (x : Fingerprint) : Prop :=
  ∃ c : Check, (∀ base : BaseChecker, base.check c = true) ∧ c.fingerprint = x

theorem Pass.Proves.backed {pass : Pass BoundedCache} {item : BatchItem} (h : pass.Proves item) :
    Backed item.question.fingerprint := by
  obtain ⟨a, _, _, sound, member, read⟩ := h
  refine ⟨item.question, fun base => ?_, rfl⟩
  rw [BaseChecker.check, Check.isValid_of_item? read]
  exact List.all_eq_true.mp sound item member

theorem Earned.backed {site : Site} {move : Move} {x : Fingerprint} (h : Earned site move x) :
    Backed x := by
  cases h with
  | alone stands undeferred stored valid => exact ⟨_, fun _ => valid, rfl⟩
  | flushed stands proven cleared => exact proven.backed
  | finished stands proven good => exact proven.backed

theorem Site.waiting_withPass {site : Site} {k : Nat} {pass : Pass BoundedCache}
    (stands : site.pass? k = some pass) (after : Pass BoundedCache) :
    (site.withPass k after).waiting k = after.waiting := by
  have inside : k < site.stages.length := by
    unfold Site.pass? at stands
    split at stands
    · rename_i batch running
      exact (List.getElem?_eq_some_iff.mp running).1
    · cases stands
  simp [Site.waiting, Site.pass?, Site.withPass, inside]

theorem Follows.waiting_eq {pass : Pass BoundedCache} {p : QueuePass} (h : Follows pass p) :
    pass.waiting = p.pending.map fun t => t.1.fingerprint := by
  cases h with
  | immediate => rfl
  | batching cache tracks capacity => exact tracks.waiting_eq

/-- While no batch has failed and all that waits is valid, the pass proves every check that waits: a
check and its item stand at one position. -/
theorem Follows.proves {pass : Pass BoundedCache} {p : QueuePass} (h : Follows pass p)
    (usable : p.usable = true) (sound : p.pending.all Prod.snd = true) {x : Fingerprint}
    (committed : x ∈ p.pending.map fun t => t.1.fingerprint) :
    ∃ item, pass.Proves item ∧ item.question.fingerprint = x := by
  obtain ⟨t, waits, rfl⟩ := List.mem_map.mp committed
  cases h with
  | immediate cache => cases waits
  | @batching a q cache tracks capacity =>
    obtain ⟨i, inside, rfl⟩ := List.getElem_of_mem waits
    have inside' : i < a.context.items.length := by
      rw [tracks.length_items usable]
      exact inside
    have read := ((tracks.items_stand usable).get inside' inside).1
    have faithful := Check.question_of_item? read
    rw [List.get_eq_getElem, List.get_eq_getElem] at read faithful
    refine ⟨a.context.items[i], ⟨a, rfl, tracks.same_usable.trans usable, ?_,
      List.getElem_mem inside', ?_⟩, ?_⟩
    · exact (tracks.all_isValid usable).trans sound
    · rw [faithful]
      exact read
    · rw [faithful]
      rfl

theorem Follows.earned_of_resolve {site : Site} {k : Nat} {pass after : Pass BoundedCache}
    {p : QueuePass} (h : Follows pass p) (stands : site.pass? k = some pass) {r : Request}
    (following : Follows after (p.resolve r.store r.question).2)
    (performed : site.perform (.resolve k r) = site.withPass k after) {x : Fingerprint}
    (held : x ∈ (p.resolve r.store r.question).2.cache.entries) :
    x ∈ p.cache.entries ∨ Earned site (.resolve k r) x := by
  have step := QueuePass.resolved r.store r.question p
  generalize p.resolve r.store r.question = next at step following held
  cases step with
  | alone undeferred =>
    unfold QueuePass.verifyAlone at held
    split at held
    · rename_i stored
      rw [Bool.and_eq_true] at stored
      rcases BoundedCache.mem_of_mem_insert held with rfl | old
      · exact Or.inr (.alone stands (undeferred.imp_left h.batch_eq_none) stored.2 stored.1)
      · exact Or.inl old
    · exact Or.inl held
  | flushed queue read usable sound =>
    rcases BoundedCache.mem_of_mem_putAll held with committed | old
    · obtain ⟨item, proven, rfl⟩ := h.proves usable sound committed
      have cleared : (site.perform (.resolve k r)).waiting k = [r.question.fingerprint] := by
        rw [performed, Site.waiting_withPass stands, following.waiting_eq]
        rfl
      exact Or.inr (.flushed stands proven cleared)
    · exact Or.inl old
  | malformed => exact Or.inl held
  | unusable => exact Or.inl held
  | queued => exact Or.inl held
  | failed => exact Or.inl held

theorem Follows.earned_of_finish {site : Site} {k : Nat} {pass : Pass BoundedCache} {p : QueuePass}
    (h : Follows pass p) (stands : site.pass? k = some pass) {x : Fingerprint}
    (held : x ∈ p.finish.2.entries) : x ∈ p.cache.entries ∨ Earned site (.finish k) x := by
  have outcome := h.finish.1
  rw [QueuePass.finish_eq] at held outcome
  split at held
  · rename_i good
    rw [if_pos good] at outcome
    rcases BoundedCache.mem_of_mem_putAll held with committed | old
    · obtain ⟨item, proven, rfl⟩ := h.proves good.1 good.2 committed
      exact Or.inr (.finished stands proven outcome)
    · exact Or.inl old
  · exact Or.inl held

/-- The batch is one with which a pass is a pass with a queue, whatever its cache. -/
def Ordinary (batch : Option (Accumulator BatchContext)) : Prop :=
  ∃ p : QueuePass, Follows ⟨batch, p.cache⟩ p

theorem Follows.ordinary {pass : Pass BoundedCache} {p : QueuePass} (h : Follows pass p) :
    Ordinary pass.batch := by
  refine ⟨p, ?_⟩
  rw [← h.same_cache]
  exact h

/-- Every running pass is one with a queue. -/
def Tidy (site : Site) : Prop := ∀ batch, Stage.running batch ∈ site.stages → Ordinary batch

namespace Tidy

variable {site : Site} {k : Nat} {pass : Pass BoundedCache}

/-- Every running pass is one with a queue, over the cache of the site. -/
theorem exists_follows (h : Tidy site) (stands : site.pass? k = some pass) :
    ∃ p, Follows pass p ∧ p.cache = site.cache := by
  unfold Site.pass? at stands
  split at stands
  · rename_i batch running
    cases stands
    obtain ⟨p, follows⟩ := h batch (List.mem_of_getElem? running)
    exact ⟨_, follows.withCache site.cache, rfl⟩
  · cases stands

/-- A running pass may be replaced by any other that is tidy, over whatever its cache has become. -/
theorem withPass {after : Pass BoundedCache} {p : QueuePass} (h : Tidy site)
    (follows : Follows after p) : Tidy (site.withPass k after) := by
  intro batch member
  rcases List.mem_or_eq_of_mem_set member with old | new
  · exact h batch old
  · cases new
    exact follows.ordinary

/-- A pass may end. -/
theorem setOver (h : Tidy site) (cache : BoundedCache) : Tidy ⟨cache, site.stages.set k .over⟩ := by
  intro batch member
  rcases List.mem_or_eq_of_mem_set member with old | new
  · exact h batch old
  · cases new

theorem start (h : Tidy site) (config : Config) : Tidy (site.perform (.start config)) := by
  intro batch member
  rcases List.mem_append.mp member with old | new
  · exact h batch old
  · cases List.mem_singleton.mp new
    exact (Follows.start config site.cache).ordinary

/-- After any move the passes are still tidy, and what is new in the cache is earned. -/
theorem perform (h : Tidy site) (move : Move) :
    Tidy (site.perform move) ∧
      ∀ x ∈ (site.perform move).cache.entries, x ∈ site.cache.entries ∨ Earned site move x := by
  cases move with
  | start config => exact ⟨h.start config, fun x old => Or.inl old⟩
  | drop k =>
    cases stands : site.pass? k with
    | none =>
      simp only [Site.perform, stands]
      exact ⟨h, fun x old => Or.inl old⟩
    | some pass =>
      obtain ⟨p, follows, same⟩ := h.exists_follows stands
      simp only [Site.perform, stands]
      refine ⟨h.setOver _, fun x held => Or.inl ?_⟩
      rw [Pass.drop, follows.same_cache, same] at held
      exact held
  | lookup k r =>
    cases stands : site.pass? k with
    | none =>
      simp only [Site.perform, stands]
      exact ⟨h, fun x old => Or.inl old⟩
    | some pass =>
      obtain ⟨p, follows, same⟩ := h.exists_follows stands
      obtain ⟨after, step, following⟩ := follows.lookup r.base r.store r.question
      simp only [Site.perform, stands, step.state_eq]
      refine ⟨h.withPass following, fun x held => Or.inl ?_⟩
      rw [Site.withPass, following.same_cache] at held
      rw [← same]
      exact BoundedCache.mem_of_mem_afterGet held
  | resolve k r =>
    cases stands : site.pass? k with
    | none =>
      simp only [Site.perform, stands]
      exact ⟨h, fun x old => Or.inl old⟩
    | some pass =>
      obtain ⟨p, follows, same⟩ := h.exists_follows stands
      obtain ⟨after, step, following⟩ := follows.resolve r.base r.store r.question
      have performed : site.perform (.resolve k r) = site.withPass k after := by
        simp only [Site.perform, stands, step.state_eq]
      rw [performed]
      refine ⟨h.withPass following, fun x held => ?_⟩
      rw [Site.withPass, following.same_cache] at held
      rw [← same]
      exact follows.earned_of_resolve stands following performed held
  | finish k =>
    cases stands : site.pass? k with
    | none =>
      simp only [Site.perform, stands]
      exact ⟨h, fun x old => Or.inl old⟩
    | some pass =>
      obtain ⟨p, follows, same⟩ := h.exists_follows stands
      simp only [Site.perform, stands, follows.finish.2]
      refine ⟨h.setOver _, fun x held => ?_⟩
      rw [← same]
      exact follows.earned_of_finish stands held

end Tidy

namespace Site

/-- Along a history the passes stay tidy, and every entry of the cache stays the fingerprint of a
valid check. -/
theorem replay_sound {site : Site} (tidy : Tidy site) (backed : ∀ x ∈ site.cache.entries, Backed x)
    (moves : List Move) :
    Tidy (replay moves site) ∧ ∀ x ∈ (replay moves site).cache.entries, Backed x := by
  induction moves generalizing site with
  | nil => exact ⟨tidy, backed⟩
  | cons move rest ih =>
    obtain ⟨tidy_next, earned⟩ := tidy.perform move
    refine ih tidy_next fun x held => ?_
    rcases earned x held with old | new
    · exact backed x old
    · exact new.backed

/-- In every state that a cache of any limit, empty at first, and the passes that share it can
reach, all entries are fingerprints of checks that the base checkers accept. What a further move
adds is earned by that move: it is resolved by the cryptography, or it is in a batch that the move
verifies and whose items are all valid. -/
theorem cache_sound (limit : Nat) (draws : Nat → Nat) (moves : List Move) :
    (∀ x ∈ (replay moves (empty limit draws)).cache.entries, Backed x) ∧
      ∀ move, ∀ x ∈ ((replay moves (empty limit draws)).perform move).cache.entries,
        x ∈ (replay moves (empty limit draws)).cache.entries ∨ Earned
          (replay moves (empty limit draws)) move x := by
  have begun : Tidy (empty limit draws) := fun _ member => by cases member
  obtain ⟨tidy, backed⟩ := replay_sound begun (fun _ held => by cases held) moves
  exact ⟨backed, fun move => (tidy.perform move).2⟩

end Site

end SigValidation
