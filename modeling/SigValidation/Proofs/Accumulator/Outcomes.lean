import SigValidation.Proofs.Accumulator.Transcript
/-!
# All that a call on an accumulator can come to

Over any backend and any cache, panics included: the lock is poisoned, the backend or the cache
panics, the call is refused, or it goes through (`Performed`). The accumulator never looks into the
backend, so `add` is a conversation with the backend (`present`), followed by what the accumulator
makes of its end (`add_eq`). Whatever is said of all calls is said by cases on `performed`.
-/
namespace SigValidation

namespace Workspace

variable {σ κ α β : Type}

@[simp] theorem waiting_withContext (w : Workspace σ κ) (context : σ) :
    (w.withContext context).accumulator.waiting = w.accumulator.waiting := rfl

@[simp] theorem cache_withContext (w : Workspace σ κ) (context : σ) :
    (w.withContext context).cache = w.cache := rfl

theorem onContext_pure (a : α) :
    (onContext (pure a) : Routine Event (Workspace σ κ) α) = pure a := rfl

theorem onContext_bind (r : Routine Notice σ α) (next : α → Routine Notice σ β) :
    (onContext (r >>= next) : Routine Event (Workspace σ κ) β) = onContext r >>= fun a =>
      onContext (next a) := by
  funext w
  change (onContext (r >>= next)).run w = (onContext r >>= fun a => onContext (next a)).run w
  simp only [onContext, Routine.run_onPart, Routine.run_bind]
  cases r.run w.accumulator.context with
  | mk outcome context told => cases outcome <;> simp [withContext]

/-- A poisoned lock bars every routine. -/
theorem run_locked_poisoned {r : Routine Event (Workspace σ κ) α} {w : Workspace σ κ}
    (poisoned : w.accumulator.poisoned = true) : (locked r).run w = ⟨.error .poisonedLock, w, []⟩ :=
  if_pos poisoned

/-- A panic under the lock poisons it. -/
theorem run_locked {r : Routine Event (Workspace σ κ) α} {w : Workspace σ κ}
    (sound : w.accumulator.poisoned = false) :
    (locked r).run w =
      match r.run w with
      | ⟨.ok a, v, events⟩ => ⟨.ok a, v, events⟩
      | ⟨.error cause, v, events⟩ => ⟨.error cause, v.poison, events⟩ := by
  change locked r w = match r w with | ⟨.ok a, v, events⟩ => _ | ⟨.error cause, v, events⟩ => _
  unfold locked
  rw [sound]
  cases r w with
  | mk outcome v events => cases outcome <;> rfl

end Workspace

namespace Accumulator

open Workspace

variable {σ κ : Type}

def Operation.perform [BatchBackend σ] [SignatureCache κ] :
    Operation → Routine Event (Workspace σ κ) Bool
  | add signature key sighash entry => Accumulator.add signature key sighash entry
  | verify => Accumulator.verify

/-- What is written when a signature was queued and so many wait. -/
def queuedEvents (pending : Nat) : List Event := [.log (.queued pending), .count .queued 1]

/-- What is written when so many entries were committed. -/
def committedEvents (count : Nat) : List Event := [.log (.committed count), .count .committed count]

/-- Why a call answers no, with so many entries waiting, and what is written then. -/
inductive Refusal (pending : Nat) : Operation → List Event → Prop where
  | unusable {signature : Bytes} {key : XOnlyKey} {sighash : SigHash} {entry : Fingerprint} :
      Refusal pending (.add signature key sighash entry) [.log .backendUnusable]
  | malformed {signature : Bytes} {key : XOnlyKey} {sighash : SigHash} {entry : Fingerprint} :
      Refusal pending (.add signature key sighash entry) [.log (.malformedKey key)]
  | rejected {signature : Bytes} {key : XOnlyKey} {sighash : SigHash} {entry : Fingerprint} :
      Refusal pending (.add signature key sighash entry) [.log (.rejected sighash),
        .count .rejected 1]
  | failed : Refusal pending .verify [.log (.batchFailed pending), .count .invalidBatch 1]

/-- The replies that a call can give. The backend leaves any context and tells what it likes. -/
inductive Performed [SignatureCache κ] (w : Workspace σ κ) :
    Operation → Reply Event (Workspace σ κ) Bool → Prop where
  | barred {operation : Operation} (poisoned : w.accumulator.poisoned = true) :
      Performed w operation ⟨.error .poisonedLock, w, []⟩
  /-- The backend panics. -/
  | broken {operation : Operation} (sound : w.accumulator.poisoned = false)
      (cause : Panic) (context : σ)
      (told : List Notice) :
      Performed w operation ⟨.error cause, (w.withContext context).poison, told.map Notice.toEvent⟩
  | refused {operation : Operation} {why : List Event} (sound : w.accumulator.poisoned = false)
      (context : σ)
      (told : List Notice) (refusal : Refusal w.accumulator.waiting.length operation why) :
      Performed w operation ⟨.ok false, w.withContext context, told.map Notice.toEvent ++ why⟩
  | queued {signature : Bytes} {key : XOnlyKey} {sighash : SigHash} {entry : Fingerprint}
      (sound : w.accumulator.poisoned = false) (context : σ) (told : List Notice)
      (room : w.accumulator.waiting.length ≠ w.accumulator.capacity) :
      Performed w (.add signature key sighash entry)
        ⟨.ok true, (w.withContext context).queued entry,
          told.map Notice.toEvent ++ queuedEvents (w.accumulator.waiting.length + 1)⟩
  /-- What waits is committed, and the new entry waits alone. -/
  | flushed {signature : Bytes} {key : XOnlyKey} {sighash : SigHash}
      {entry : Fingerprint} {cache : κ}
      {setting : List Notice} (sound : w.accumulator.poisoned = false) (context : σ)
        (told : List Notice)
      (full : w.accumulator.waiting.length = w.accumulator.capacity)
      (sets : (setAll w.accumulator.waiting).run w.cache = ⟨.ok (), cache, setting⟩) :
      Performed w (.add signature key sighash entry)
        ⟨.ok true, ((w.withContext context).withWaiting [entry]).withCache cache,
          told.map Notice.toEvent ++ (setting.map Notice.toEvent ++
            (committedEvents w.accumulator.waiting.length ++ queuedEvents 1))⟩
  | verified {cache : κ} {setting : List Notice} (sound : w.accumulator.poisoned = false)
      (context : σ)
      (told : List Notice) (sets : (setAll w.accumulator.waiting).run w.cache =
        ⟨.ok (), cache, setting⟩) :
      Performed w .verify
        ⟨.ok true, ((w.withContext context).withWaiting []).withCache cache,
          told.map Notice.toEvent ++
            (setting.map Notice.toEvent ++ committedEvents w.accumulator.waiting.length)⟩
  /-- The cache panics while entries are committed. None of them waits any more. -/
  | interrupted {operation : Operation} {cause : Panic} {cache : κ} {setting : List Notice}
      (sound : w.accumulator.poisoned = false) (context : σ) (told : List Notice)
      (sets : (setAll w.accumulator.waiting).run w.cache = ⟨.error cause, cache, setting⟩) :
      Performed w operation
        ⟨.error cause, (((w.withContext context).withWaiting []).withCache cache).poison,
          told.map Notice.toEvent ++ setting.map Notice.toEvent⟩

section Commit

variable [SignatureCache κ]

/-- Committing sets what waits, in order, and forgets it even where the cache panics. -/
theorem run_commit (w : Workspace σ κ) :
    (commit : Routine Event (Workspace σ κ) Unit).run w =
      match (setAll w.accumulator.waiting).run w.cache with
      | ⟨.ok (), cache, setting⟩ =>
        ⟨.ok (), (w.withWaiting []).withCache cache,
          setting.map Notice.toEvent ++ committedEvents w.accumulator.waiting.length⟩
      | ⟨.error cause, cache, setting⟩ =>
        ⟨.error cause, (w.withWaiting []).withCache cache, setting.map Notice.toEvent⟩ := by
  have same : (w.withWaiting []).cache = w.cache := rfl
  unfold commit
  simp only [Routine.run_bind, Routine.run_state, Routine.run_modify, onCache,
    Routine.run_onPart, same]
  cases (setAll w.accumulator.waiting).run w.cache with
  | mk outcome cache setting => cases outcome <;> simp [committedEvents]

theorem run_enqueue_room {entry : Fingerprint} {w : Workspace σ κ}
    (room : w.accumulator.waiting.length ≠ w.accumulator.capacity) :
    (enqueue entry).run w = ⟨.ok (), w.queued entry,
      queuedEvents (w.accumulator.waiting.length + 1)⟩ := by
  unfold enqueue
  simp [Routine.run_bind, room, queuedEvents, queued, withWaiting]

/-- With a batch's worth of entries waiting, these are committed before the new one waits. -/
theorem run_enqueue_full {entry : Fingerprint} {w : Workspace σ κ}
    (full : w.accumulator.waiting.length = w.accumulator.capacity) :
    (enqueue entry).run w =
      match (setAll w.accumulator.waiting).run w.cache with
      | ⟨.ok (), cache, setting⟩ =>
        ⟨.ok (), (w.withWaiting [entry]).withCache cache,
          setting.map Notice.toEvent ++
            (committedEvents w.accumulator.waiting.length ++ queuedEvents 1)⟩
      | ⟨.error cause, cache, setting⟩ =>
        ⟨.error cause, (w.withWaiting []).withCache cache, setting.map Notice.toEvent⟩ := by
  unfold enqueue
  simp only [Routine.run_bind, Routine.run_state, full, if_true, run_commit]
  cases (setAll w.accumulator.waiting).run w.cache with
  | mk outcome cache setting => cases outcome <;> simp [queuedEvents, withWaiting, withCache]

end Commit

/-- What a backend makes of a signature that is to be added. -/
inductive Reception where
  | unusable | malformed | rejected | taken

def present [BatchBackend σ] (signature : Bytes) (key : XOnlyKey) (sighash : SigHash) :
    Routine Notice σ Reception := do
  if ← BatchBackend.isUsable then
    match ← BatchBackend.parse key with
    | some parsed =>
      if ← BatchBackend.add signature sighash parsed then return .taken else return .rejected
    | none => return .malformed
  else return .unusable

/-- What the accumulator does about a signature that the backend has had. -/
def settle [SignatureCache κ] (key : XOnlyKey) (sighash : SigHash) (entry : Fingerprint) :
    Reception → Routine Event (Workspace σ κ) Bool
  | .unusable => do
    Routine.emit (.log .backendUnusable)
    return false
  | .malformed => do
    Routine.emit (.log (.malformedKey key))
    return false
  | .rejected => do
    Routine.emit (.log (.rejected sighash))
    Routine.emit (.count .rejected 1)
    return false
  | .taken => do
    enqueue entry
    return true

section Calls

variable [BatchBackend σ] [SignatureCache κ]

/-- All calls of the backend come before anything the accumulator does itself. -/
theorem add_eq (signature : Bytes) (key : XOnlyKey) (sighash : SigHash) (entry : Fingerprint) :
    (Accumulator.add signature key sighash entry : Routine Event (Workspace σ κ) Bool) =
      locked (onContext (present signature key sighash) >>= settle key sighash entry) := by
  unfold Accumulator.add present
  simp only [onContext_bind, bind_assoc]
  congr 1
  refine bind_congr fun usable => ?_
  cases usable with
  | false => simp [onContext_pure, settle]
  | true =>
    simp only [if_true, onContext_bind, bind_assoc]
    refine bind_congr fun parsed => ?_
    cases parsed with
    | none => simp [onContext_pure, settle]
    | some parsed =>
      simp only [onContext_bind, bind_assoc]
      refine bind_congr fun taken => ?_
      cases taken <;> simp [onContext_pure, settle]

private theorem performed_add {w : Workspace σ κ} (sound : w.accumulator.poisoned = false)
    (signature : Bytes) (key : XOnlyKey) (sighash : SigHash) (entry : Fingerprint) :
    Performed w (.add signature key sighash entry)
      ((Accumulator.add signature key sighash entry).run w) := by
  rw [add_eq, run_locked sound, Routine.run_bind, onContext, Routine.run_onPart]
  cases (present signature key sighash).run w.accumulator.context with
  | mk outcome context told =>
    cases outcome with
    | error cause => exact .broken sound cause context told
    | ok reception =>
      cases reception with
      | unusable => exact .refused sound context told .unusable
      | malformed => exact .refused sound context told .malformed
      | rejected => exact .refused sound context told .rejected
      | taken =>
        simp only [settle, Routine.run_bind]
        by_cases full : w.accumulator.waiting.length = w.accumulator.capacity
        · rw [run_enqueue_full (w := w.withContext context) full]
          simp only [waiting_withContext, cache_withContext]
          cases sets : (setAll w.accumulator.waiting).run w.cache with
          | mk outcome cache setting =>
            cases outcome with
            | error cause => exact .interrupted sound context told sets
            | ok _ => simpa using Performed.flushed sound context told full sets
        · rw [run_enqueue_room (w := w.withContext context) full]
          simpa using Performed.queued sound context told full

private theorem performed_verify {w : Workspace σ κ} (sound : w.accumulator.poisoned = false) :
    Performed w .verify (Accumulator.verify.run w) := by
  rw [Accumulator.verify, run_locked sound, Routine.run_bind, onContext, Routine.run_onPart]
  cases (BatchBackend.verify : Routine Notice σ Bool).run w.accumulator.context with
  | mk outcome context told =>
    cases outcome with
    | error cause => exact .broken sound cause context told
    | ok valid =>
      cases valid with
      | false => exact .refused sound context told .failed
      | true =>
        simp only [if_true, Routine.run_bind, run_commit, waiting_withContext, cache_withContext]
        cases sets : (setAll w.accumulator.waiting).run w.cache with
        | mk outcome cache setting =>
          cases outcome with
          | error cause => exact .interrupted sound context told sets
          | ok _ => simpa using Performed.verified sound context told sets

/-- Every reply of a call is one of these. -/
theorem performed (operation : Operation) (w : Workspace σ κ) :
    Performed w operation (operation.perform.run w) := by
  cases sound : w.accumulator.poisoned with
  | true =>
    have closed : operation.perform.run w = ⟨.error .poisonedLock, w, []⟩ := by
      cases operation <;> exact run_locked_poisoned sound
    rw [closed]
    exact .barred sound
  | false =>
    cases operation with
    | add signature key sighash entry => exact performed_add sound signature key sighash entry
    | verify => exact performed_verify sound

/-- A call that answers came to one of the ways in which it answers. -/
theorem Performed.of_yields {operation : Operation} {w v : Workspace σ κ} {answer : Bool}
    (h : operation.perform.Yields w answer v) :
    ∃ events, Performed w operation ⟨.ok answer, v, events⟩ := by
  obtain ⟨events, reply⟩ := h
  have outcome := performed operation w
  rw [reply] at outcome
  exact ⟨events, outcome⟩

end Calls

end Accumulator

end SigValidation
