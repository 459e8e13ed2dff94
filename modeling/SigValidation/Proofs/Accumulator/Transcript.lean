import SigValidation.Proofs.Accumulator.OneQueue
import SigValidation.Proofs.Cache.Contents
/-!
# What can be seen of an accumulator

A transcript lists, for each of a sequence of calls, its answer, how many signatures wait after it
and all entries set in the cache so far. An accumulator over the secp256k1 context and the queue
that keeps one list have the same transcript, whatever is called and whichever cache the entries go
to.
-/
namespace SigValidation

variable {κ : Type}

namespace Accumulator

inductive Operation where
  | add (signature : Bytes) (key : XOnlyKey) (sighash : SigHash) (entry : Fingerprint)
  | verify

deriving instance DecidableEq for Except

/-- What can be seen of a call and of the state it leaves. -/
structure Sight where
  answer : Except Panic Bool
  waiting : Except Panic Nat
  sets : List Fingerprint
  deriving DecidableEq

namespace Operation

def routine [SignatureCache κ] : Operation → Routine Event (Workspace BatchContext κ) Bool
  | add signature key sighash entry => Accumulator.add signature key sighash entry
  | verify => Accumulator.verify

def onQueue (capacity : Nat) : Operation → OneQueue Fingerprint → Bool × OneQueue Fingerprint
  | add signature key sighash entry, q => q.offer capacity (.schnorr signature key sighash) entry
  | verify, q => q.verify

end Operation

def fresh (capacity : Nat) (positive : 0 < capacity) : Accumulator BatchContext where
  capacity := capacity
  capacity_pos := positive
  context := { capacity }

def transcript [SignatureCache κ] : List Operation → Workspace BatchContext (Logged κ) → List Sight
  | [], _ => []
  | operation :: rest, w =>
    let reply := operation.routine.run w
    ⟨reply.outcome, reply.state.accumulator.pendingCount, reply.state.cache.sets⟩ ::
      transcript rest reply.state

end Accumulator

/-- What is seen of the same calls on a queue. -/
def OneQueue.transcript (capacity : Nat) :
    List Accumulator.Operation → OneQueue Fingerprint → List Accumulator.Sight
  | [], _ => []
  | operation :: rest, q =>
    let (answer, after) := operation.onQueue capacity q
    ⟨.ok answer, .ok after.pending.length, after.committed⟩ :: transcript capacity rest after

open Accumulator

/-- Where there is room for a batch at all, the new accumulator is the one that is created. -/
theorem Accumulator.create_eq_fresh {capacity : Nat} (positive : 0 < capacity)
    (room : capacity * BatchContext.itemSize ≤ maxRoom) :
    Accumulator.create capacity (BatchContext.create capacity) = .ok (fresh capacity positive) := by
  have entries_fit : capacity * entrySize ≤ maxRoom :=
    Nat.le_trans (Nat.mul_le_mul_left capacity (by decide : entrySize ≤ BatchContext.itemSize)) room
  unfold Accumulator.create BatchContext.create
  rw [dif_pos positive, if_pos room]
  exact if_pos entries_fit

/-- A callback is its entry, and an item stands for it with its own verdict. -/
def Reading.callbacks : Reading Fingerprint where
  entry := id
  Stands item t := item.isValid = t.2
  verdict := id

section

variable [SignatureCache κ] [CalmCache κ]

/-- One call on an accumulator and on the queue that it is. -/
theorem Tracks.operation {a : Accumulator BatchContext} {q : OneQueue Fingerprint}
    (h : Tracks .callbacks a q) (operation : Operation) (cache : κ) :
    Agrees .callbacks operation.routine a cache q (operation.onQueue a.capacity q) := by
  cases operation with
  | add signature key sighash entry => exact h.offer entry (fun _ _ => rfl) cache
  | verify => exact h.verify cache

theorem OneQueue.committed_prefix_onQueue (capacity : Nat) (operation : Operation)
    (q : OneQueue Fingerprint) : q.committed <+: (operation.onQueue capacity q).2.committed := by
  cases operation with
  | add signature key sighash entry => exact q.committed_prefix_offer capacity _ entry
  | verify => exact q.committed_prefix_verify

/-- Behind a log the entries set so far are those that the queue has committed. -/
theorem Tracks.operation_logged {a : Accumulator BatchContext} {q : OneQueue Fingerprint}
    (h : Tracks .callbacks a q) (operation : Operation) (cache : κ) :
    ∃ after last, operation.routine.Yields ⟨a, Logged.mk cache q.committed⟩
      (operation.onQueue a.capacity q).1
        ⟨after, Logged.mk last (operation.onQueue a.capacity q).2.committed⟩ ∧
      Tracks .callbacks after (operation.onQueue a.capacity q).2 ∧ after.capacity = a.capacity := by
  obtain ⟨after, step, tracks, capacity⟩ := h.operation operation (Logged.mk cache q.committed)
  have sets :=
    OneQueue.append_committedSince (OneQueue.committed_prefix_onQueue a.capacity operation q)
  have labels : (q.committedSince (operation.onQueue a.capacity q).2).map Reading.callbacks.entry =
      q.committedSince (operation.onQueue a.capacity q).2 := List.map_id _
  rw [Logged.putAll_eq, labels, sets] at step
  exact ⟨after, _, step, tracks, capacity⟩

/-- From an accumulator and a queue in step, all that is seen of any further calls is the same. -/
theorem Tracks.transcript_eq {a : Accumulator BatchContext} {q : OneQueue Fingerprint}
    (h : Tracks .callbacks a q) (operations : List Operation) (cache : κ) :
    Accumulator.transcript operations ⟨a, ⟨cache, q.committed⟩⟩ =
      q.transcript a.capacity operations := by
  induction operations generalizing a q cache with
  | nil => rfl
  | cons operation rest ih =>
    obtain ⟨after, last, step, tracks, capacity⟩ := h.operation_logged operation cache
    have later := ih tracks last
    rw [capacity] at later
    rw [Accumulator.transcript, OneQueue.transcript, step.outcome_eq, step.state_eq,
      tracks.pendingCount, later]

/-- For every capacity and every sequence of calls an accumulator over the secp256k1 context cannot
be told from the queue that keeps one list: the answers, the numbers of waiting signatures and the
entries set in the cache, in their order, are the same after every call. -/
theorem transcript_eq_oneQueue {capacity : Nat} (positive : 0 < capacity)
    (operations : List Operation) (cache : κ) :
    Accumulator.transcript operations ⟨fresh capacity positive, ⟨cache, []⟩⟩ =
      OneQueue.transcript capacity operations {} :=
  (Tracks.fresh positive).transcript_eq operations cache

end

/-- In a batch of one, a second signature flushes the first, which is invalid, and is refused with
all that follows. -/
theorem transcript_eq_oneQueue_failing :
    let add := fun n => Operation.add (List.replicate 64 0xff)
      ⟨Bytes32.ofNat 0x79be667ef9dcbbac55a06295ce870b07029bfcdb2dce28d959f2815b16f81798⟩
        ⟨Bytes32.replicate 0⟩
      ⟨Bytes32.replicate n⟩
    0 < 1 ∧
      Accumulator.transcript [add 1, add 2, .verify] ⟨fresh 1 Nat.one_pos,
        ⟨(⟨1, [], fun _ => 0⟩ : BoundedCache), []⟩⟩ =
        [⟨.ok true, .ok 1, []⟩, ⟨.ok false, .ok 1, []⟩, ⟨.ok false, .ok 1, []⟩] := by
  intro add
  refine ⟨Nat.one_pos, ?_⟩
  calc
    _ = OneQueue.transcript 1 [add 1, add 2, .verify] {} := transcript_eq_oneQueue Nat.one_pos _ _
    _ = _ := by decide +kernel

end SigValidation
