import SigValidation.Journal
/-!
# Signature caches

A cache holds fingerprints of checks known to be valid. Whatever runs on it may panic and may give
notices; a view shows what it holds.

The bounded cache holds each entry once and no more entries than its limit; a limit of zero switches
it off. A new entry that meets a full cache takes the place of one that is drawn from those held.
The draws are part of the state, so that every possible run of draws can be spoken of.
-/
namespace SigValidation

open Text

/-- The operations of a cache that is a state of type `σ`. -/
class SignatureCache (σ : Type) where
  /-- Whether the entry is held; an entry found is removed if asked. -/
  get : Fingerprint → (erase : Bool) → Routine Notice σ Bool
  /-- Puts an entry into the cache. -/
  set : Fingerprint → Routine Notice σ Unit

/-- What can be seen of a cache. -/
class CacheView (σ : Type) where
  /-- The entries held, in the cache's own order. -/
  entries : σ → List Fingerprint
  debugTree : σ → Text.DebugTree

def entryTrees (entries : List Fingerprint) : List Text.DebugTree :=
  entries.map Fingerprint.debugTree

/-- The entry at a position removed: the last entry moves into the hole. -/
def swapRemove {α : Type} (entries : List α) (position : Nat) : List α :=
  match entries.getLast? with
  | some last => if position < entries.length then (entries.set position last).dropLast else entries
  | none => entries

structure BoundedCache where
  maxEntries : Nat
  entries : List Fingerprint := []
  /-- The numbers still to be drawn. -/
  draws : Nat → Nat := fun _ => 0

namespace BoundedCache

/-- Draws a number below the given one; there has to be one. -/
def draw (below : Nat) : Routine Notice BoundedCache Nat := do
  if below = 0 then Routine.panic .emptyDraw
  else
    let cache ← Routine.state
    Routine.modify fun cache => { cache with draws := fun i => cache.draws (i + 1) }
    return cache.draws 0 % below

def removeAt (position : Nat) : Routine Notice BoundedCache Unit :=
  Routine.modify fun cache => { cache with entries := swapRemove cache.entries position }

def get (entry : Fingerprint) (erase : Bool) : Routine Notice BoundedCache Bool := do
  let cache ← Routine.state
  if entry ∈ cache.entries then
    if erase then removeAt (cache.entries.idxOf entry)
    return true
  else return false

/-- Makes room for one entry if the cache is full. -/
def evict : Routine Notice BoundedCache Unit := do
  let cache ← Routine.state
  if cache.entries.length < cache.maxEntries then return
  else
    let victim ← draw cache.entries.length
    removeAt victim

def set (entry : Fingerprint) : Routine Notice BoundedCache Unit := do
  let cache ← Routine.state
  if cache.maxEntries = 0 then return
  else if entry ∈ cache.entries then return
  else
    evict
    Routine.modify fun cache => { cache with entries := cache.entries ++ [entry] }

/-- Looking an entry up changes the cache only if it is found and to be erased. -/
theorem run_get (entry : Fingerprint) (erase : Bool) (c : BoundedCache) :
    (get entry erase).run c =
      if entry ∈ c.entries then
        ⟨.ok true,
          if erase then { c with entries := swapRemove c.entries (c.entries.idxOf entry) } else c,
          []⟩
      else ⟨.ok false, c, []⟩ := by
  unfold get
  simp only [Routine.run_bind, Routine.run_state]
  split <;> cases erase <;> simp_all [removeAt, Except.map]

/-- Room is made only in a full cache, at the cost of the entry that is drawn. -/
theorem run_evict (c : BoundedCache) :
    evict.run c =
      if c.entries.length < c.maxEntries then ⟨.ok (), c, []⟩
      else if c.entries.length = 0 then ⟨.error .emptyDraw, c, []⟩
      else
        ⟨.ok (), { c with
          entries := swapRemove c.entries (c.draws 0 % c.entries.length)
          draws := fun i => c.draws (i + 1) }, []⟩ := by
  unfold evict
  simp only [Routine.run_bind, Routine.run_state]
  by_cases room : c.entries.length < c.maxEntries
  · simp [room]
  · rw [if_neg room, if_neg room]
    by_cases empty : c.entries.length = 0 <;> simp [empty, draw, Routine.run_bind, removeAt]

/-- Putting an entry in changes the cache only if the cache is switched on and does not hold the
entry. -/
theorem run_set (entry : Fingerprint) (c : BoundedCache) :
    (set entry).run c =
      if c.maxEntries = 0 ∨ entry ∈ c.entries then ⟨.ok (), c, []⟩
      else
        let room := evict.run c
        match room.outcome with
        | .error panic => ⟨.error panic, room.state, room.events⟩
        | .ok () =>
          ⟨.ok (), { room.state with entries := room.state.entries ++ [entry] }, room.events⟩ := by
  unfold set
  simp only [Routine.run_bind, Routine.run_state]
  by_cases off : c.maxEntries = 0
  · simp [off]
  · by_cases held : entry ∈ c.entries
    · simp [off, held]
    · simp only [off, held, if_false, or_self, Routine.run_bind]
      cases (evict.run c).outcome <;> simp

instance : SignatureCache BoundedCache := ⟨get, set⟩

instance : CacheView BoundedCache where
  entries := entries
  debugTree cache :=
    let held : DebugTree := .set (entryTrees cache.entries)
    .record "InMemorySignatureCache"
      [("entries", .partialRecord "RwLock" [("data", held), ("poisoned", .truth false)]),
        ("max_entries", .number cache.maxEntries)]

end BoundedCache

end SigValidation
