import SigValidation.Backend.Context
import SigValidation.Cache.Bounded
/-!
# The accumulator of a batch

The accumulator queues Schnorr signatures in a backend and keeps, beside it, the cache entries to be
made once their batch is verified. It never asks the backend how many signatures it holds: when an
accepted signature meets as many waiting entries as the backend has room for, the backend must have
verified and cleared its batch, and the entries go into the cache.

A waiting entry stands without the cache it goes to. Every call names that cache anew, and all calls
on one accumulator name the same one, so a `Workspace` holds it once for all entries that wait.

Context and entries are reached only under a lock. A panic under the lock poisons it, and a poisoned
lock makes every later operation panic before it does anything.
-/
namespace SigValidation

open Text

/-- The state under the lock, and the lock. -/
structure Accumulator (σ : Type) where
  /-- How many signatures the backend's batch holds. -/
  capacity : Nat
  capacity_pos : 0 < capacity
  context : σ
  /-- The entries to be made, in the order their signatures were queued. -/
  waiting : List Fingerprint := []
  poisoned : Bool := false

/-- An accumulator and the cache its entries go to. -/
structure Workspace (σ κ : Type) where
  accumulator : Accumulator σ
  cache : κ

namespace Workspace

variable {σ κ α : Type}

def withContext (w : Workspace σ κ) (context : σ) : Workspace σ κ :=
  { w with accumulator := { w.accumulator with context } }

def withWaiting (w : Workspace σ κ) (waiting : List Fingerprint) : Workspace σ κ :=
  { w with accumulator := { w.accumulator with waiting } }

def withCache (w : Workspace σ κ) (cache : κ) : Workspace σ κ := { w with cache }

def poison (w : Workspace σ κ) : Workspace σ κ :=
  { w with accumulator := { w.accumulator with poisoned := true } }

def onContext (r : Routine Notice σ α) : Routine Event (Workspace σ κ) α :=
  Routine.onPart (fun w => w.accumulator.context) withContext Notice.toEvent r

def onCache (r : Routine Notice κ α) : Routine Event (Workspace σ κ) α :=
  Routine.onPart cache withCache Notice.toEvent r

/-- Runs a routine under the lock. -/
def locked (r : Routine Event (Workspace σ κ) α) : Routine Event (Workspace σ κ) α := fun w =>
  if w.accumulator.poisoned then ⟨.error .poisonedLock, w, []⟩
  else
    let reply := r w
    match reply.outcome with
    | .ok _ => reply
    | .error _ => { reply with state := reply.state.poison }

end Workspace

def setAll {κ : Type} [SignatureCache κ] : List Fingerprint → Routine Notice κ Unit
  | [] => pure ()
  | entry :: rest => do
    SignatureCache.set entry
    setAll rest

namespace Accumulator

open Workspace

variable {σ κ : Type}

/-- The bytes that a waiting entry takes: its fingerprint and a reference to its cache. -/
def entrySize : Nat := 48

/-- An accumulator over a new context. Room for the waiting entries is set aside at once. -/
def create (capacity : Nat) (newContext : Except Panic σ) : Except Panic (Accumulator σ) := do
  if h : 0 < capacity then
    let context ← newContext
    if capacity * entrySize ≤ maxRoom then return { capacity, capacity_pos := h, context }
    else .error .tooMuchRoom
  else .error .zeroCapacity

def pendingCount (a : Accumulator σ) : Except Panic Nat :=
  if a.poisoned then .error .poisonedLock else .ok a.waiting.length

/-- Puts all waiting entries into the cache. None is left waiting, whatever happens on the way. -/
def commit [SignatureCache κ] : Routine Event (Workspace σ κ) Unit := do
  let entries := (← Routine.state).accumulator.waiting
  Routine.modify fun w => w.withWaiting []
  onCache (setAll entries)
  Routine.emit (.log (.committed entries.length))
  Routine.emit (.count .committed entries.length)

/-- Lets an entry wait for its batch. The waiting entries are committed first if there are as many
as fit a batch: the backend has then just verified them. -/
def enqueue [SignatureCache κ] (entry : Fingerprint) : Routine Event (Workspace σ κ) Unit := do
  let accumulator := (← Routine.state).accumulator
  if accumulator.waiting.length = accumulator.capacity then commit
  Routine.modify fun w => w.withWaiting (w.accumulator.waiting ++ [entry])
  Routine.emit (.log (.queued (← Routine.state).accumulator.waiting.length))
  Routine.emit (.count .queued 1)

/-- Queues a signature, with the entry to be made once it is verified. The answer is no if it was
not queued; the signature then has to be verified in another way. -/
def add [BatchBackend σ] [SignatureCache κ] (signature : Bytes) (key : XOnlyKey) (sighash : SigHash)
    (entry : Fingerprint) : Routine Event (Workspace σ κ) Bool := locked do
  if ← onContext BatchBackend.isUsable then
    match ← onContext (BatchBackend.parse key) with
    | some parsed =>
      if ← onContext (BatchBackend.add signature sighash parsed) then
        enqueue entry
        return true
      else
        Routine.emit (.log (.rejected sighash))
        Routine.emit (.count .rejected 1)
        return false
    | none =>
      Routine.emit (.log (.malformedKey key))
      return false
  else
    Routine.emit (.log .backendUnusable)
    return false

/-- Verifies every queued signature. If all are valid their entries are committed; if not, the
entries stay where they are and nothing queued since the last success can be trusted. -/
def verify [BatchBackend σ] [SignatureCache κ] : Routine Event (Workspace σ κ) Bool := locked do
  if ← onContext BatchBackend.verify then
    commit
    return true
  else
    Routine.emit (.log (.batchFailed (← Routine.state).accumulator.waiting.length))
    Routine.emit (.count .invalidBatch 1)
    return false

/-- What is written when an accumulator is dropped. Entries still waiting are lost; under a poisoned
lock they are not even looked at. -/
def dropped (a : Accumulator σ) : List Event :=
  if a.poisoned || a.waiting.isEmpty then [] else [.log (.discarded a.waiting.length)]

def debugTree (a : Accumulator σ) : DebugTree :=
  .partialRecord "BatchSchnorrVerifier" [("capacity", .number a.capacity)]

end Accumulator

/-- A cache entry to be made later, with the cache it goes to. -/
def deferredEntryTree {κ : Type} [CacheView κ] (cache : κ) (entry : Fingerprint) : DebugTree :=
  .record "SigCacheCallback" [("cache", CacheView.debugTree cache), ("entry", entry.debugTree)]

end SigValidation
