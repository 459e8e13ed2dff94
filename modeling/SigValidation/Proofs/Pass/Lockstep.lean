import SigValidation.Proofs.Accumulator.Lockstep
import SigValidation.Proofs.Pass.QueuePass
/-!
# A batching pass in lockstep

Whatever checks are made of a batching pass, with whatever bytes and in whatever interleaving of
their phases, whatever else uses the cache meanwhile, and also after a panic: the entries that wait
and the items of the backend stay in lockstep. So the entries a check commits in passing are those
of the batch that the backend has just verified in the same call (`Pass.lockstep`).
-/
namespace SigValidation

namespace Pass

variable {κ : Type} [SignatureCache κ]

/-- A state that a pass can be in. Both phases of a check count by themselves, for other checks can
come between them. -/
inductive Reached (config : Config) (cache : κ) : Pass κ → Prop where
  | start : Reached config cache (start config cache)
  | looked {p : Pass κ} (base : BaseChecker) (store : Bool) (question : Check)
      (before : Reached config cache p) :
      Reached config cache ((lookup base store question).run p).state
  | resolved {p : Pass κ} (base : BaseChecker) (store : Bool) (question : Check)
      (before : Reached config cache p) :
      Reached config cache ((resolve base store question).run p).state
  | settled {p : Pass κ} (before : Reached config cache p) :
      Reached config cache (settle.run p).state
  /-- The cache is shared, and others use it. -/
  | elsewhere {p : Pass κ} (other : κ) (before : Reached config cache p) :
      Reached config cache { p with cache := other }

/-- A whole check reaches what its phases reach. -/
theorem Reached.checked {config : Config} {cache : κ} {p : Pass κ} (before : Reached config cache p)
    (base : BaseChecker) (store : Bool) (question : Check) :
    Reached config cache ((check base store question).run p).state := by
  have looked := before.looked base store question
  rw [check_eq, Routine.run_bind]
  cases found : (lookup base store question).run p with
  | mk outcome between events =>
    rw [found] at looked
    rcases outcome with cause | _ | _
    · exact looked
    · exact looked.resolved base store question
    · exact looked

/-- Looking a fingerprint up leaves the batch alone. -/
theorem batch_lookup (base : BaseChecker) (store : Bool) (question : Check) (p : Pass κ) :
    ((lookup base store question).run p).state.batch = p.batch := by
  unfold lookup
  rw [Routine.run_bind, Routine.run_state]
  dsimp only
  rw [Routine.run_bind, onCache, Routine.run_onPart]
  cases (CachingChecker.lookup ⟨base, store⟩ question.fingerprint).run p.cache with
  | mk outcome after events =>
    rcases outcome with cause | _ | _
    · rfl
    · rfl
    · have hit : (p.noteHit question >>= fun _ => pure true).Yields
        { p with cache := after } true _ :=
        (yields_noteHit p _ question).bind (Routine.yields_pure true _)
      dsimp only
      rw [if_pos rfl, hit.state_eq]

section Batching

variable {p : Pass κ} {a : Accumulator BatchContext}

/-- Only a Schnorr check goes to the batch. -/
theorem batch_resolve_ecdsa (batching : p.batch = some a) (base : BaseChecker) (store : Bool)
    (signature key : Bytes) (sighash : SigHash) :
    ((resolve base store (.ecdsa signature key sighash)).run p).state.batch = some a := by
  unfold resolve
  rw [Routine.run_bind, Routine.run_state]
  dsimp only
  rw [batching]
  exact batching

theorem batch_resolve_schnorr (batching : p.batch = some a) (base : BaseChecker) (store : Bool)
    (signature : Bytes) (key : XOnlyKey) (sighash : SigHash) :
    let question := Check.schnorr signature key sighash
    ((resolve base store question).run p).state.batch =
      some ((Accumulator.add signature key sighash question.fingerprint).run ⟨a,
        p.cache⟩).state.accumulator := by
  intro question
  unfold resolve
  rw [Routine.run_bind, Routine.run_state]
  dsimp only
  rw [batching]
  rfl

theorem batch_settle (batching : p.batch = some a) :
    (settle.run p).state.batch = some (Accumulator.verify.run ⟨a, p.cache⟩).state.accumulator := by
  unfold settle
  cases poisoned : a.poisoned with
  | true =>
    have barred : (Accumulator.verify.run ⟨a, p.cache⟩).state.accumulator = a := by
      rw [Accumulator.verify, Workspace.run_locked_poisoned (w := ⟨a, p.cache⟩) poisoned]
    simp [Routine.run_bind, batching, Accumulator.pendingCount, poisoned, barred]
  | false =>
    cases reply : (Accumulator.verify :
        Routine Event (Workspace BatchContext κ) Bool).run ⟨a, p.cache⟩ with
    | mk outcome after events =>
      rcases outcome with cause | _ | _ <;>
        simp [Routine.run_bind, batching, Accumulator.pendingCount, poisoned, onWorkspace, reply]

end Batching

/-- The pass has an accumulator, which is in lockstep unless a panic has poisoned the lock. -/
def InLockstep (p : Pass κ) : Prop :=
  ∃ a, p.batch = some a ∧ (CalmCache κ → a.poisoned = false) ∧ (a.poisoned = false → Lockstep a)

/-- A call under the lock keeps the lockstep if it does where the lock is sound. -/
theorem InLockstep.of_locked {p next : Pass κ} {after : Accumulator BatchContext} (h : p.InLockstep)
    (left : next.batch = some after)
    (barred : ∀ a, p.batch = some a → a.poisoned = true → after = a)
    (sound : ∀ a, p.batch = some a → a.poisoned = false → Lockstep a →
      (CalmCache κ → after.poisoned = false) ∧ (after.poisoned = false → Lockstep after)) :
    next.InLockstep := by
  obtain ⟨a, batching, calm, lockstep⟩ := h
  refine ⟨after, left, ?_⟩
  cases poisoned : a.poisoned with
  | true =>
    rw [barred a batching poisoned]
    exact ⟨calm, lockstep⟩
  | false => exact sound a batching poisoned (lockstep poisoned)

theorem Reached.inLockstep {config : Config} (batching : config.batchSchnorr = true) {cache : κ}
    {p : Pass κ} (reached : Reached config cache p) : p.InLockstep := by
  induction reached with
  | start =>
    refine ⟨newAccumulator, by rw [Pass.start, if_pos batching], fun _ => rfl,
      fun _ => ⟨rfl, fun _ => rfl, fun unusable => ?_⟩⟩
    cases unusable
  | @looked p base store question before ih =>
    obtain ⟨a, held, kept⟩ := ih
    exact ⟨a, (batch_lookup base store question p).trans held, kept⟩
  | @resolved p base store question before ih =>
    obtain ⟨a, held, _⟩ := id ih
    cases question with
    | ecdsa signature key sighash =>
      obtain ⟨a, held, kept⟩ := ih
      exact ⟨a, batch_resolve_ecdsa held base store signature key sighash, kept⟩
    | schnorr signature key sighash =>
      refine ih.of_locked (batch_resolve_schnorr held base store signature key sighash) ?_ ?_
      · intro a' held' poisoned
        cases held.symm.trans held'
        rw [Accumulator.add, Workspace.run_locked_poisoned (w := ⟨a, _⟩) poisoned]
      · intro a' held' sound lockstep
        cases held.symm.trans held'
        have outcome := lockstep.added sound p.cache signature key sighash
          (Check.schnorr signature key sighash).fingerprint
        exact ⟨fun _ => Lockstep.sound_of_added sound outcome, lockstep.of_added outcome⟩
  | @settled p before ih =>
    obtain ⟨a, held, _⟩ := id ih
    refine ih.of_locked (batch_settle held) ?_ ?_
    · intro a' held' poisoned
      cases held.symm.trans held'
      rw [Accumulator.verify, Workspace.run_locked_poisoned (w := ⟨a, _⟩) poisoned]
    · intro a' held' sound lockstep
      cases held.symm.trans held'
      have outcome := Accumulator.verified sound p.cache
      exact ⟨fun _ => Lockstep.sound_of_verified sound outcome, lockstep.of_verified outcome⟩
  | elsewhere other before ih => exact ih

/-- In every state that a batching pass can be in, unless a panic of the cache has poisoned the
lock: a usable backend holds as many items as entries wait, and each entry is the fingerprint of its
item, taken from the bytes of the signature, the key written out again and the signature hash; an
unusable backend holds no items. So when a signature is added, entries are set in the cache only if
as many wait as fit a batch and the signature is taken, and then the backend has found their items
valid in that call. -/
theorem lockstep {config : Config} (batching : config.batchSchnorr = true) {cache : κ}
    {pass : Pass κ} (reached : Reached config cache pass) :
    ∃ a, pass.batch = some a ∧ (CalmCache κ → a.poisoned = false) ∧
      (a.poisoned = false →
        (a.context.usable = true →
          a.waiting.length = a.context.items.length ∧
            ∀ (i : Nat) (item : BatchItem), a.context.items[i]? = some item →
              a.waiting[i]? = some
                (Check.schnorr item.signature.bytes ⟨item.key.toXOnly⟩ item.sighash).fingerprint) ∧
        (a.context.usable = false → a.context.items = []) ∧
        ∀ (l : Logged κ)
          (signature : Bytes) (key : XOnlyKey) (sighash : SigHash) (entry : Fingerprint),
          let reply := (Accumulator.add signature key sighash entry).run ⟨a, l⟩
          (a.waiting.length = a.capacity → reply.outcome ≠ .ok false → Flushed a l reply) ∧
            (a.waiting.length ≠ a.capacity ∨ reply.outcome = .ok false →
              reply.state.cache = l)) := by
  obtain ⟨a, held, calm, lockstep⟩ := reached.inLockstep batching
  refine ⟨a, held, calm, fun sound => ?_⟩
  have h := lockstep sound
  refine ⟨fun usable => ⟨h.length_waiting usable, ?_⟩, h.drained, ?_⟩
  · intro i item there
    rw [h.paired usable, List.getElem?_map, there]
    rfl
  · intro l signature key sighash entry reply
    have outcome := h.added sound l signature key sighash entry
    exact ⟨h.flushed outcome, outcome.cache_eq⟩

/-- After one check of a valid signature, one entry waits beside one item. -/
theorem lockstep_sample :
    let config : Config := { batchSchnorr := true, cacheLimit := 1 }
    let cache : BoundedCache := ⟨1, [], fun _ => 0⟩
    let pass := ((check Request.sample.base true .sample).run (start config cache)).state
    config.batchSchnorr = true ∧ Reached config cache pass ∧ CalmCache BoundedCache ∧
      ∃ a, pass.batch = some a ∧ a.poisoned = false ∧ a.context.usable = true ∧
        a.context.items.length = 1 ∧
        a.waiting.length = 1 := by
  intro config cache pass
  have reached : Reached config cache pass := Reached.start.checked Request.sample.base true .sample
  obtain ⟨a, held, calm, kept⟩ := lockstep rfl reached
  have sound := calm inferInstance
  have seen : pass.batch.map (fun a => (a.context.usable, a.context.items.length)) =
    some (true, 1) := by decide +kernel
  rw [held, Option.map_some, Option.some.injEq, Prod.mk.injEq] at seen
  obtain ⟨usable, one⟩ := seen
  exact ⟨rfl, reached, inferInstance, a, held, sound, usable, one,
    ((kept sound).1 usable).1.trans one⟩

end Pass

end SigValidation
