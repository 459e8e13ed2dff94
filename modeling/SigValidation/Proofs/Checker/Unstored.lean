import SigValidation.Proofs.Checker.Commons
import SigValidation.Proofs.Pass.Verdict
/-!
# Checks through checkers that do not store

A checker that does not store erases what it finds and keeps nothing that the cryptography accepts.
Queueing does not ask whether the checker stores: the entry of a queued check comes into the cache
with its batch all the same. So what such checks add to a cache was queued and then committed
(`Commons.unstored_gain`), and a pass of one such check does add its entry
(`Pass.checkAll_unstored`).
-/
namespace SigValidation

namespace Commons

/-- The action is no check through a checker that stores. -/
def Action.Unstored (action : Action) : Prop := ∀ r, action.request? = some r → r.store = false

variable {σ : Type} [BatchBackend σ]

/-- From any cache and any accumulators in which nothing waits, checks that do not store and
verifications add no entry but those of Schnorr checks that were queued in an accumulator and waited
there until their batch was verified. -/
theorem unstored_gain {c : Commons σ} (fresh : ∀ k, c.waiting k = []) {actions : List Action}
    (unstored : ∀ action ∈ actions, action.Unstored) :
    ∀ x ∈ (c.after actions).cache.entries, x ∉ c.cache.entries →
      ∃ queueing committing k r, Deferred (c.history actions) queueing committing k r ∧
        r.question.fingerprint = x := by
  intro x held new
  rcases mem_cache_after_of_fresh fresh held with old | entered
  · exact absurd old new
  · cases entered with
    | stored member stores =>
      have erases := unstored _ (action_mem_of_mem_history member) _ stores.asks
      rw [stores.store] at erases
      cases erases
    | deferred waited => exact ⟨_, _, _, _, waited, rfl⟩

end Commons

/-- A check that does not store. -/
def Request.unstored : Request := { Request.sample with store := false }

namespace Pass

/-- Finishing a batching pass does to the cache what verifying its accumulator does. -/
theorem finish_state {κ : Type} [SignatureCache κ] (a : Accumulator BatchContext) (cache : κ) :
    (Pass.mk (some a) cache).finish.state = (Accumulator.verify.run ⟨a, cache⟩).state.cache := by
  have settled : (settle.run (Pass.mk (some a) cache)).state.cache =
      (Accumulator.verify.run (Workspace.mk a cache)).state.cache := by
    unfold settle
    simp only [Routine.run_bind, Routine.run_state, Routine.run_emit]
    cases poisoned : a.poisoned with
    | true =>
      have barred : (Accumulator.verify.run (Workspace.mk a cache)).state = ⟨a, cache⟩ :=
        congrArg Reply.state (Workspace.run_locked_poisoned poisoned)
      rw [barred, Accumulator.pendingCount, poisoned]
      rfl
    | false =>
      rw [Accumulator.pendingCount, poisoned]
      simp only [Bool.false_eq_true, if_false, Routine.run_bind, onWorkspace, Routine.run_onPart]
      cases (Accumulator.verify.run (Workspace.mk a cache)).outcome with
      | error => rfl
      | ok good => cases good <;> rfl
  exact settled

/-- A check that does not store is queued all the same, and its entry comes into the cache when the
pass is finished. -/
theorem yields_check_unstored (cache : BoundedCache) (empty : cache.entries = [])
    (room : 0 < cache.maxEntries) :
    let r := Request.unstored
    ∃ pass, (check r.base r.store r.question).Yields (start ⟨true, 4⟩ cache) true pass ∧
      pass.finish.outcome = .ok (.ok ()) ∧
        pass.finish.state.entries = [r.question.fingerprint] := by
  intro r
  have checked : (QueuePass.start ⟨true, 4⟩ cache).check false .sample =
      (true, ⟨some ⟨[(.sample, true)], [], true⟩, cache⟩) :=
    QueuePass.check_sample (q := {}) rfl rfl (by decide) (by simp [QueuePass.start, empty])
  obtain ⟨pass, step, follows⟩ := (Follows.start ⟨true, 4⟩ cache).check r.base r.store r.question
  have named : (QueuePass.start ⟨true, 4⟩ cache).check r.store r.question = _ := checked
  rw [named] at step follows
  have ends := follows.finish
  rw [QueuePass.finish_eq, if_pos ⟨rfl, rfl⟩] at ends
  refine ⟨pass, step, ends.1, ?_⟩
  rw [ends.2]
  simp [QueuePass.pending, putAll, BoundedCache.insert, empty, room, Nat.ne_of_gt room,
    r, Request.unstored, Request.sample]

/-- A pass in which one valid Schnorr check is made through a checker that does not store ends with
its entry cached. -/
theorem checkAll_unstored :
    let r := Request.unstored
    let cache : BoundedCache := { maxEntries := 4 }
    ∃ pass, (checkAll [r]).Yields (start ⟨true, 4⟩ cache) [true] pass ∧
      pass.finish.outcome = .ok (.ok ()) ∧
      pass.finish.state.entries = [r.question.fingerprint] := by
  intro r cache
  obtain ⟨pass, step, ends⟩ := yields_check_unstored cache rfl (by decide)
  exact ⟨pass, yields_checkAll_cons step (yields_checkAll_nil pass), ends⟩

end Pass

namespace Commons

/-- A check over an accumulator, followed by a verification, does to the cache what a pass does that
makes the check and is finished. -/
theorem cache_after_verify (c : Commons BatchContext) (k : Nat) (r : Request) :
    (c.after [.batching k r, .verify k]).cache =
      ((Pass.check r.base r.store r.question).run
        ⟨some (c.accumulators k), c.cache⟩).state.finish.state := by
  have checked : (c.after [.batching k r]).workspace k =
      ((BatchingChecker.check ⟨⟨r.base, r.store⟩⟩ r.question).run (c.workspace k)).state :=
    workspace_withWorkspace _ _ _
  have verified : (c.after [.batching k r, .verify k]).cache =
      (Accumulator.verify.run ((c.after [.batching k r]).workspace k)).state.cache := rfl
  rw [verified, checked]
  exact (Pass.finish_state _ _).symm

/-- A check that does not store is queued, and what waits is verified: the entry is gained. -/
theorem unstored_gain_verified :
    let r := Request.unstored
    let actions := [Action.batching 0 r, .verify 0]
    (∀ k, (empty 4).waiting k = []) ∧ (∀ action ∈ actions, action.Unstored) ∧
      ((empty 4).after actions).cache.entries = [r.question.fingerprint] ∧
      (empty 4).cache.entries = [] ∧
      ∃ queueing committing k s, Deferred ((empty 4).history actions) queueing committing k s ∧
        s.question.fingerprint = r.question.fingerprint := by
  intro r actions
  have unstored : ∀ action ∈ actions, action.Unstored := by
    intro action member other asks
    rcases List.mem_cons.mp member with rfl | member
    · cases asks
      rfl
    · cases List.mem_singleton.mp member
      cases asks
  obtain ⟨pass, step, -, gained⟩ := Pass.yields_check_unstored (empty 4).cache rfl (by decide)
  have held : ((empty 4).after actions).cache.entries = [r.question.fingerprint] := by
    rw [← gained, ← step.state_eq]
    exact congrArg BoundedCache.entries (cache_after_verify (empty 4) 0 r)
  refine ⟨fun _ => rfl, unstored, held, rfl,
    unstored_gain (fun _ => rfl) unstored _ ?_ List.not_mem_nil⟩
  rw [held]
  exact List.mem_singleton_self _

end Commons

end SigValidation
