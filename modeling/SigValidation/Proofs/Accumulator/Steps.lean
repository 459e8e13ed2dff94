import SigValidation.Proofs.Cache.Calm
/-!
# The steps of an accumulator

What one call on an accumulator does, for each way its backend can answer and over any calm cache.
An accepted signature is queued behind the waiting entries, or alone once these are committed; a
refusal leaves entries and cache as they are.
-/
namespace SigValidation

namespace Workspace

variable {σ κ : Type}

/-- The workspace once all that waits is committed. -/
def committed [SignatureCache κ] (w : Workspace σ κ) : Workspace σ κ :=
  (w.withWaiting []).withCache (putAll w.accumulator.waiting w.cache)

/-- The workspace once an entry waits behind the others. -/
def queued (entry : Fingerprint) (w : Workspace σ κ) : Workspace σ κ :=
  w.withWaiting (w.accumulator.waiting ++ [entry])

end Workspace

namespace Accumulator

open Workspace

variable {σ κ : Type}

private theorem yields_enqueue_tail (entry : Fingerprint) (w : Workspace σ κ) :
    (do
      Routine.modify fun w => w.withWaiting (w.accumulator.waiting ++ [entry])
      Routine.emit (.log (.queued (← Routine.state).accumulator.waiting.length))
      Routine.emit (.count .queued 1) :
      Routine Event (Workspace σ κ) Unit).Yields w () (w.queued entry) := by
  apply (Routine.yields_modify _ w).bind
  apply (Routine.yields_state _).bind
  exact (Routine.yields_emit _ _).bind (Routine.yields_emit _ _)

theorem yields_enqueue_room [SignatureCache κ] {entry : Fingerprint} {w : Workspace σ κ}
    (room : w.accumulator.waiting.length ≠ w.accumulator.capacity) :
    (enqueue entry).Yields w () (w.queued entry) := by
  apply (Routine.yields_state w).bind
  rw [if_neg room]
  exact yields_enqueue_tail entry w

section Enqueue

variable [SignatureCache κ] [CalmCache κ]

/-- Over a calm cache all that waits is committed. -/
theorem yields_commit (w : Workspace σ κ) : commit.Yields w () w.committed := by
  apply (Routine.yields_state w).bind
  apply (Routine.yields_modify _ w).bind
  apply (yields_onCache (w := w.withWaiting []) (yields_setAll w.accumulator.waiting w.cache)).bind
  exact (Routine.yields_emit _ _).bind (Routine.yields_emit _ _)

theorem yields_enqueue_full {entry : Fingerprint} {w : Workspace σ κ}
    (full : w.accumulator.waiting.length = w.accumulator.capacity) :
    (enqueue entry).Yields w () (w.committed.queued entry) := by
  apply (Routine.yields_state w).bind
  rw [if_pos full]
  exact (yields_commit w).bind (yields_enqueue_tail entry w.committed)

end Enqueue

section Add

variable [BatchBackend σ] [SignatureCache κ] {signature : Bytes} {key : XOnlyKey}
  {sighash : SigHash} {entry : Fingerprint}
  {w v : Workspace σ κ} {c d e : σ} {parsed : BatchBackend.Key σ}

theorem yields_add_unusable (sound : w.accumulator.poisoned = false)
    (unusable : BatchBackend.isUsable.Yields w.accumulator.context false c) :
    (add signature key sighash entry).Yields w false (w.withContext c) := by
  refine yields_locked sound ?_
  apply (yields_onContext unusable).bind
  exact (Routine.yields_emit _ _).bind (Routine.yields_pure _ _)

theorem yields_add_malformed (sound : w.accumulator.poisoned = false)
    (usable : BatchBackend.isUsable.Yields w.accumulator.context true c)
    (malformed : (BatchBackend.parse key).Yields c none d) :
    (add signature key sighash entry).Yields w false (w.withContext d) := by
  refine yields_locked sound ?_
  apply (yields_onContext usable).bind
  apply (yields_onContext (w := w.withContext c) malformed).bind
  exact (Routine.yields_emit _ _).bind (Routine.yields_pure _ _)

/-- A signature that the backend does not take changes the context only. -/
theorem yields_add_rejected (sound : w.accumulator.poisoned = false)
    (usable : BatchBackend.isUsable.Yields w.accumulator.context true c)
    (parses : (BatchBackend.parse key).Yields c (some parsed) d)
    (rejected : (BatchBackend.add signature sighash parsed).Yields d false e) :
    (add signature key sighash entry).Yields w false (w.withContext e) := by
  refine yields_locked sound ?_
  apply (yields_onContext usable).bind
  apply (yields_onContext (w := w.withContext c) parses).bind
  apply (yields_onContext (w := w.withContext d) rejected).bind
  apply (Routine.yields_emit _ _).bind
  exact (Routine.yields_emit _ _).bind (Routine.yields_pure _ _)

/-- A signature that the backend takes is queued. -/
theorem yields_add_taken (sound : w.accumulator.poisoned = false)
    (usable : BatchBackend.isUsable.Yields w.accumulator.context true c)
    (parses : (BatchBackend.parse key).Yields c (some parsed) d)
    (taken : (BatchBackend.add signature sighash parsed).Yields d true e)
    (enqueued : (enqueue entry).Yields (w.withContext e) () v) :
    (add signature key sighash entry).Yields w true v := by
  refine yields_locked sound ?_
  apply (yields_onContext usable).bind
  apply (yields_onContext (w := w.withContext c) parses).bind
  apply (yields_onContext (w := w.withContext d) taken).bind
  exact enqueued.bind (Routine.yields_pure _ _)

end Add

section Verify

variable [BatchBackend σ] [SignatureCache κ] {w : Workspace σ κ} {c : σ}

/-- A verification that succeeds commits all that waits. -/
theorem yields_verify_success [CalmCache κ] (sound : w.accumulator.poisoned = false)
    (success : BatchBackend.verify.Yields w.accumulator.context true c) :
    verify.Yields w true (w.withContext c).committed := by
  refine yields_locked sound ?_
  apply (yields_onContext success).bind
  exact (yields_commit _).bind (Routine.yields_pure _ _)

/-- A verification that fails leaves the entries waiting. -/
theorem yields_verify_failure (sound : w.accumulator.poisoned = false)
    (failure : BatchBackend.verify.Yields w.accumulator.context false c) :
    verify.Yields w false (w.withContext c) := by
  refine yields_locked sound ?_
  apply (yields_onContext failure).bind
  apply (Routine.yields_state _).bind
  apply (Routine.yields_emit _ _).bind
  exact (Routine.yields_emit _ _).bind (Routine.yields_pure _ _)

end Verify

end Accumulator

end SigValidation
