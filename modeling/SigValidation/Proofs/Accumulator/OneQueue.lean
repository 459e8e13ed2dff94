import Mathlib.Data.List.Forall2
import SigValidation.Pass.Basic
import SigValidation.Proofs.Accumulator.Steps
import SigValidation.Proofs.Backend.Context
import SigValidation.Proofs.Check.Item
/-!
# The accumulator as one queue

The accumulator keeps waiting entries and the backend keeps items, and neither asks the other how
many it has. `OneQueue` keeps one list instead, where each label stands beside the verdict on its
signature, and `Tracks` says that the two lists of an accumulator over the secp256k1 context are
such a queue torn apart. Each call preserves it, and accumulator and queue give the same answer and
commit the same entries (`Tracks.offer`, `Tracks.verify`). After a failed verification the items are
gone and the entries stay; from then on nothing is queued or committed any more.
-/
namespace SigValidation

/-- A queue of signatures whose verdicts are known. -/
structure OneQueue (ι : Type) where
  /-- What waits, in order, with the verdict on each signature. -/
  pending : List (ι × Bool) := []
  /-- What was committed so far, in order. -/
  committed : List ι := []
  usable : Bool := true
  deriving DecidableEq

namespace OneQueue

variable {ι : Type}

def allValid (q : OneQueue ι) : Bool := q.pending.all Prod.snd

/-- Commits all that waits if every signature is valid. If one is not, the queue becomes unusable
and keeps what waits. -/
def flush (q : OneQueue ι) : Bool × OneQueue ι :=
  if q.allValid then (true,
    { q with pending := [], committed := q.committed ++ q.pending.map Prod.fst })
  else (false, { q with usable := false })

def push (label : ι) (valid : Bool) (q : OneQueue ι) : OneQueue ι :=
  { q with pending := q.pending ++ [(label, valid)] }

/-- Queues a signature; a full queue is flushed first. -/
def add (capacity : Nat) (label : ι) (valid : Bool) (q : OneQueue ι) : Bool × OneQueue ι :=
  if q.usable then
    if q.pending.length = capacity then
      match q.flush with
      | (true, flushed) => (true, flushed.push label valid)
      | (false, failed) => (false, failed)
    else (true, q.push label valid)
  else (false, q)

/-- Queues the signature of a check under a label. What no batch takes is refused without a trace,
and the verdict on what it takes is the one of the cryptography. -/
def offer (capacity : Nat) (question : Check) (label : ι) (q : OneQueue ι) : Bool × OneQueue ι :=
  if question.item?.isSome then q.add capacity label question.isValid else (false, q)

def verify (q : OneQueue ι) : Bool × OneQueue ι := if q.usable then q.flush else (false, q)

/-- What was committed from one state of a queue to a later one. -/
def committedSince (before after : OneQueue ι) : List ι :=
  after.committed.drop before.committed.length

theorem offer_of_item?_none {capacity : Nat} {question : Check} {label : ι} {q : OneQueue ι}
    (h : question.item? = none) : q.offer capacity question label = (false, q) := by
  simp [offer, h]

theorem offer_of_item? {capacity : Nat} {question : Check} {item : BatchItem} {label : ι}
    {q : OneQueue ι} (h : question.item? = some item) :
    q.offer capacity question label = q.add capacity label item.isValid := by
  simp [offer, h, Check.isValid_of_item? h]

theorem add_unusable {capacity : Nat} {label : ι} {valid : Bool} {q : OneQueue ι}
    (h : q.usable = false) : q.add capacity label valid = (false, q) := by
  simp [add, h]

theorem add_room {capacity : Nat} {label : ι} {valid : Bool} {q : OneQueue ι}
    (usable : q.usable = true) (room : q.pending.length ≠ capacity) :
    q.add capacity label valid = (true, q.push label valid) := by
  simp [add, usable, room]

/-- With room in the queue, what a batch takes is queued. -/
theorem offer_room {capacity : Nat} {question : Check} {item : BatchItem} {label : ι}
    {q : OneQueue ι} (read : question.item? = some item) (usable : q.usable = true)
    (room : q.pending.length ≠ capacity) :
    q.offer capacity question label = (true, q.push label question.isValid) := by
  rw [offer_of_item? read, add_room usable room, ← Check.isValid_of_item? read]

theorem add_full_valid {capacity : Nat} {label : ι} {valid : Bool} {q : OneQueue ι}
    (usable : q.usable = true) (full : q.pending.length = capacity) (sound : q.allValid = true) :
    q.add capacity label valid =
      (true, ⟨[(label, valid)], q.committed ++ q.pending.map Prod.fst, true⟩) := by
  simp [add, usable, full, flush, sound, push]

theorem add_full_invalid {capacity : Nat} {label : ι} {valid : Bool} {q : OneQueue ι}
    (usable : q.usable = true) (full : q.pending.length = capacity) (unsound : q.allValid = false) :
    q.add capacity label valid = (false, { q with usable := false }) := by
  simp [add, usable, full, flush, unsound]

theorem verify_unusable {q : OneQueue ι} (h : q.usable = false) : q.verify = (false, q) := by
  simp [verify, h]

theorem verify_valid {q : OneQueue ι} (usable : q.usable = true) (sound : q.allValid = true) :
    q.verify = (true, ⟨[], q.committed ++ q.pending.map Prod.fst, true⟩) := by
  simp [verify, usable, flush, sound]

theorem verify_invalid {q : OneQueue ι} (usable : q.usable = true) (unsound : q.allValid = false) :
    q.verify = (false, { q with usable := false }) := by
  simp [verify, usable, flush, unsound]

/-- All that offering a signature can come to. -/
inductive Offered (capacity : Nat) (question : Check) (label : ι) (q : OneQueue ι) :
    Bool × OneQueue ι → Prop where
  | malformed (unread : question.item? = none) : Offered capacity question label q (false, q)
  | unusable (unusable : q.usable = false) : Offered capacity question label q (false, q)
  | queued {item : BatchItem} (read : question.item? = some item) (usable : q.usable = true)
      (room : q.pending.length ≠ capacity) :
      Offered capacity question label q (true, q.push label question.isValid)
  | flushed {item : BatchItem} (read : question.item? = some item) (usable : q.usable = true)
      (full : q.pending.length = capacity) (sound : q.allValid = true) :
      Offered capacity question label q
        (true, ⟨[(label, question.isValid)], q.committed ++ q.pending.map Prod.fst, true⟩)
  | failed {item : BatchItem} (read : question.item? = some item) (usable : q.usable = true)
      (full : q.pending.length = capacity) (unsound : q.allValid = false) :
      Offered capacity question label q (false, { q with usable := false })

/-- Every signature that is offered meets one of these cases. -/
theorem offered (capacity : Nat) (question : Check) (label : ι) (q : OneQueue ι) :
    Offered capacity question label q (q.offer capacity question label) := by
  cases read : question.item? with
  | none =>
    rw [offer_of_item?_none read]
    exact .malformed read
  | some item =>
    rw [offer_of_item? read, ← Check.isValid_of_item? read]
    cases usable : q.usable with
    | false =>
      rw [add_unusable usable]
      exact .unusable usable
    | true =>
      by_cases full : q.pending.length = capacity
      · cases sound : q.allValid with
        | false =>
          rw [add_full_invalid usable full sound]
          exact .failed read usable full sound
        | true =>
          rw [add_full_valid usable full sound]
          exact .flushed read usable full sound
      · rw [add_room usable full]
        exact .queued read usable full

theorem committedSince_eq_nil {q r : OneQueue ι} (h : r.committed = q.committed) :
    q.committedSince r = [] := by
  rw [committedSince, h, List.drop_length]

theorem committedSince_append {q r : OneQueue ι} {labels : List ι}
    (h : r.committed = q.committed ++ labels) : q.committedSince r = labels := by
  simp [committedSince, h]

/-- Nothing that was committed is ever taken back. -/
theorem committed_prefix_flush (q : OneQueue ι) : q.committed <+: q.flush.2.committed := by
  unfold flush
  split
  · exact List.prefix_append _ _
  · exact List.prefix_rfl

/-- Nothing that was committed is taken back. -/
theorem committed_prefix_offer (capacity : Nat) (question : Check) (label : ι) (q : OneQueue ι) :
    q.committed <+: (q.offer capacity question label).2.committed := by
  have flushing := q.committed_prefix_flush
  unfold offer add
  split
  · split
    · split
      · split <;> rename_i flushed <;> simpa [flushed, push] using flushing
      · exact List.prefix_rfl
    · exact List.prefix_rfl
  · exact List.prefix_rfl

theorem committed_prefix_verify (q : OneQueue ι) : q.committed <+: q.verify.2.committed := by
  unfold verify
  split
  · exact q.committed_prefix_flush
  · exact List.prefix_rfl

theorem append_committedSince {q r : OneQueue ι} (h : q.committed <+: r.committed) :
    q.committed ++ q.committedSince r = r.committed :=
  List.prefix_iff_eq_append.mp h

def labels (q : OneQueue ι) : List ι := q.committed ++ q.pending.map Prod.fst

/-- What is queued comes behind all that was queued before, and stays there. -/
theorem labels_offer (capacity : Nat) (question : Check) (label : ι) (q : OneQueue ι) :
    (q.offer capacity question label).2.labels =
      q.labels ++ if (q.offer capacity question label).1 then [label] else [] := by
  have offered := q.offered capacity question label
  generalize q.offer capacity question label = next at offered
  cases offered <;> simp [labels, push]

end OneQueue

/-- What no batch takes is refused, and the workspace stays as it is, whatever its context holds. -/
theorem Accumulator.yields_add_unread {κ : Type} [SignatureCache κ] {w : Workspace BatchContext κ}
    {signature : Bytes} {key : XOnlyKey} {sighash : SigHash} (entry : Fingerprint)
    (sound : w.accumulator.poisoned = false)
    (unread : (Check.schnorr signature key sighash).item? = none) :
    (Accumulator.add signature key sighash entry).Yields w false w := by
  have usability := BatchContext.yields_isUsable w.accumulator.context
  have parsing := BatchContext.yields_parse key w.accumulator.context
  cases usable : w.accumulator.context.usable with
  | false =>
    rw [usable] at usability
    exact yields_add_unusable sound usability
  | true =>
    rw [usable] at usability
    cases hk : Curve.AffinePoint.ofXOnly? key.bytes with
    | none =>
      rw [hk] at parsing
      exact yields_add_malformed sound usability parsing
    | some point =>
      rw [hk] at parsing
      cases hs : Schnorr.Signature.ofBytes? signature with
      | none =>
        exact yields_add_rejected sound usability parsing
          (BatchContext.yields_add_malformed sighash point hs)
      | some parsed =>
        rw [Check.item?_eq_some hs hk] at unread
        cases unread

/-- How the labels of a queue are read: the entry a label commits, and the items that it can stand
for together with a verdict, which has to be the item's own. -/
structure Reading (ι : Type) where
  entry : ι → Fingerprint
  Stands : BatchItem → ι × Bool → Prop
  verdict : ∀ {item t}, Stands item t → item.isValid = t.2

variable {ι κ : Type}

/-- A batch is valid exactly if all verdicts of its queue are yes. -/
theorem Reading.all_isValid (reading : Reading ι) {items : List BatchItem}
    {pending : List (ι × Bool)} (h : List.Forall₂ reading.Stands items pending) :
    items.all BatchItem.isValid = pending.all Prod.snd := by
  induction h with
  | nil => rfl
  | cons first _ ih => rw [List.all_cons, List.all_cons, reading.verdict first, ih]

/-- The accumulator is the queue, with its entries in one list and its items in another. -/
structure Tracks (reading : Reading ι) (a : Accumulator BatchContext) (q : OneQueue ι) : Prop where
  sound : a.poisoned = false
  same_capacity : a.context.capacity = a.capacity
  same_usable : a.context.usable = q.usable
  waiting_eq : a.waiting = q.pending.map fun t => reading.entry t.1
  pending_le : q.pending.length ≤ a.capacity
  items_stand : q.usable = true → List.Forall₂ reading.Stands a.context.items q.pending
  drained : q.usable = false → a.context.items = []

namespace Tracks

variable {reading : Reading ι} {a : Accumulator BatchContext} {q : OneQueue ι}

theorem length_waiting (h : Tracks reading a q) : a.waiting.length = q.pending.length := by
  rw [h.waiting_eq, List.length_map]

/-- The accumulator counts what the queue holds. -/
theorem pendingCount (h : Tracks reading a q) : a.pendingCount = .ok q.pending.length := by
  rw [Accumulator.pendingCount, h.sound, h.length_waiting]
  rfl

theorem length_items (h : Tracks reading a q) (usable : q.usable = true) :
    a.context.items.length = q.pending.length :=
  (h.items_stand usable).length_eq

/-- The entries that wait are those of the labels that wait. -/
theorem entries_eq (h : Tracks reading a q) :
    (q.pending.map Prod.fst).map reading.entry = a.waiting := by
  rw [h.waiting_eq, List.map_map]
  rfl

/-- The batch is valid if and only if the queue is. -/
theorem all_isValid (h : Tracks reading a q) (usable : q.usable = true) :
    a.context.items.all BatchItem.isValid = q.allValid :=
  reading.all_isValid (h.items_stand usable)

/-- A new accumulator is an empty queue. -/
theorem fresh {capacity : Nat} (positive : 0 < capacity) :
    Tracks reading { capacity, capacity_pos := positive, context := { capacity } } {} where
  sound := rfl
  same_capacity := rfl
  same_usable := rfl
  waiting_eq := rfl
  pending_le := Nat.zero_le _
  items_stand _ := .nil
  drained _ := rfl

/-- A failed verification drains the items and leaves the entries. -/
theorem failed (h : Tracks reading a q) :
    Tracks reading { a with context := { a.context with items := [], usable := false } }
      { q with usable := false } where
  sound := h.sound
  same_capacity := h.same_capacity
  same_usable := rfl
  waiting_eq := h.waiting_eq
  pending_le := h.pending_le
  items_stand usable := by cases usable
  drained _ := rfl

/-- A successful one empties both lists. -/
theorem flushed (h : Tracks reading a q) (labels : List ι) :
    Tracks reading
      { a with context := { a.context with items := [], usable := true }, waiting := [] }
      ⟨[], labels, true⟩ where
  sound := h.sound
  same_capacity := h.same_capacity
  same_usable := rfl
  waiting_eq := rfl
  pending_le := Nat.zero_le _
  items_stand _ := .nil
  drained usable := by cases usable

/-- An item and its entry go to the ends of both lists. -/
theorem pushed (h : Tracks reading a q) (usable : q.usable = true)
    (room : q.pending.length < a.capacity) {item : BatchItem} {label : ι} {valid : Bool}
    (stands : reading.Stands item (label, valid)) :
    Tracks reading
      { a with
        context := { a.context with items := a.context.items ++ [item] }
        waiting := a.waiting ++ [reading.entry label] }
      (q.push label valid) where
  sound := h.sound
  same_capacity := h.same_capacity
  same_usable := h.same_usable
  waiting_eq := by simp [OneQueue.push, h.waiting_eq]
  pending_le := by
    rw [OneQueue.push, List.length_append, List.length_singleton]
    exact room
  items_stand _ := List.rel_append (h.items_stand usable) (.cons stands .nil)
  drained unusable := by simp [OneQueue.push, usable] at unusable

end Tracks

/-- The call on the accumulator gives the queue's answer and leaves an accumulator that is the queue
after the call; the entries committed meanwhile, and nothing else, were set in the cache. -/
def Agrees [SignatureCache κ] (reading : Reading ι)
    (r : Routine Event (Workspace BatchContext κ) Bool) (a : Accumulator BatchContext) (cache : κ)
    (q : OneQueue ι) (next : Bool × OneQueue ι) : Prop :=
  ∃ after, r.Yields ⟨a, cache⟩ next.1
      ⟨after, putAll ((q.committedSince next.2).map reading.entry) cache⟩ ∧
    Tracks reading after next.2 ∧ after.capacity = a.capacity

section Agrees

variable [SignatureCache κ] {reading : Reading ι}
  {r : Routine Event (Workspace BatchContext κ) Bool}
  {a after : Accumulator BatchContext} {cache : κ} {q : OneQueue ι} {next : Bool × OneQueue ι}

theorem agrees_of_uncommitted (same : next.2.committed = q.committed)
    (step : r.Yields ⟨a, cache⟩ next.1 ⟨after, cache⟩) (tracks : Tracks reading after next.2)
    (capacity : after.capacity = a.capacity) : Agrees reading r a cache q next := by
  refine ⟨after, ?_, tracks, capacity⟩
  rw [OneQueue.committedSince_eq_nil same]
  exact step

theorem agrees_of_committed (h : Tracks reading a q)
    (all : next.2.committed = q.committed ++ q.pending.map Prod.fst)
    (step : r.Yields ⟨a, cache⟩ next.1 ⟨after, putAll a.waiting cache⟩)
    (tracks : Tracks reading after next.2) (capacity : after.capacity = a.capacity) :
    Agrees reading r a cache q next := by
  refine ⟨after, ?_, tracks, capacity⟩
  rw [OneQueue.committedSince_append all, h.entries_eq]
  exact step

end Agrees

namespace Tracks

variable {reading : Reading ι} {a : Accumulator BatchContext} {q : OneQueue ι} [SignatureCache κ]
  [CalmCache κ]

/-- Verifying the accumulator is verifying the queue. -/
theorem verify (h : Tracks reading a q) (cache : κ) :
    Agrees reading Accumulator.verify a cache q q.verify := by
  cases usable : q.usable with
  | false =>
    rw [OneQueue.verify_unusable usable]
    have step :=
      BatchContext.yields_verify_unusable (c := a.context) (by rw [h.same_usable, usable])
    exact agrees_of_uncommitted rfl
      (Accumulator.yields_verify_failure (w := ⟨a, cache⟩) h.sound step) h rfl
  | true =>
    have step := BatchContext.yields_verify (c := a.context) (by rw [h.same_usable, usable])
    rw [h.all_isValid usable] at step
    cases sound : q.allValid with
    | false =>
      rw [sound] at step
      rw [OneQueue.verify_invalid usable sound]
      exact agrees_of_uncommitted rfl
        (Accumulator.yields_verify_failure (w := ⟨a, cache⟩) h.sound step) h.failed rfl
    | true =>
      rw [sound] at step
      rw [OneQueue.verify_valid usable sound]
      have committing := Accumulator.yields_verify_success (w := ⟨a, cache⟩) h.sound step
      exact agrees_of_committed h rfl committing (h.flushed _) rfl

/-- A well-formed signature, under a usable context, is added as the queue adds its label. -/
private theorem add (h : Tracks reading a q) (usable : q.usable = true) {signature : Bytes}
    {key : XOnlyKey} {sighash : SigHash} {parsed : Schnorr.Signature} {point : Curve.AffinePoint}
    {label : ι} {valid : Bool} (usability : BatchBackend.isUsable.Yields a.context true a.context)
    (parsing : (BatchBackend.parse key).Yields a.context (some point) a.context)
    (hs : Schnorr.Signature.ofBytes? signature = some parsed)
    (stands : reading.Stands ⟨parsed, sighash, point⟩ (label, valid)) (cache : κ) :
    Agrees reading (Accumulator.add signature key sighash (reading.entry label)) a cache q
      (q.add a.capacity label valid) := by
  have context_usable : a.context.usable = true := by rw [h.same_usable, usable]
  by_cases full : q.pending.length = a.capacity
  · have items_full : a.context.items.length = a.context.capacity := by
      rw [h.length_items usable, h.same_capacity, full]
    cases sound : q.allValid with
    | false =>
      have step := BatchContext.yields_add_full_invalid sighash point context_usable hs items_full
        (by rw [h.all_isValid usable, sound])
      rw [OneQueue.add_full_invalid usable full sound]
      exact agrees_of_uncommitted rfl
        (Accumulator.yields_add_rejected (w := ⟨a, cache⟩) h.sound usability parsing step)
        h.failed rfl
    | true =>
      have step := BatchContext.yields_add_full_valid sighash point context_usable hs items_full
        (by rw [h.all_isValid usable, sound])
      have waiting_full : a.waiting.length = a.capacity := by rw [h.length_waiting, full]
      rw [OneQueue.add_full_valid usable full sound]
      exact agrees_of_committed h rfl
        (Accumulator.yields_add_taken (w := ⟨a, cache⟩) h.sound usability parsing step
          (Accumulator.yields_enqueue_full waiting_full))
        ((h.flushed (q.committed ++ q.pending.map Prod.fst)).pushed rfl a.capacity_pos stands) rfl
  · have items_room : a.context.items.length ≠ a.context.capacity := by
      rw [h.length_items usable, h.same_capacity]
      exact full
    have step := BatchContext.yields_add_room sighash point context_usable hs items_room
    have waiting_room : a.waiting.length ≠ a.capacity := by
      rw [h.length_waiting]
      exact full
    rw [OneQueue.add_room usable full]
    exact agrees_of_uncommitted rfl
      (Accumulator.yields_add_taken (w := ⟨a, cache⟩) h.sound usability parsing step
        (Accumulator.yields_enqueue_room waiting_room))
      (h.pushed usable (Nat.lt_of_le_of_ne h.pending_le full) stands) rfl

/-- Adding a signature to the accumulator is offering its check to the queue. -/
theorem offer (h : Tracks reading a q) {signature : Bytes} {key : XOnlyKey} {sighash : SigHash}
    (label : ι)
    (stands : ∀ item, (Check.schnorr signature key sighash).item? = some item →
      reading.Stands item (label, item.isValid))
    (cache : κ) :
    Agrees reading (Accumulator.add signature key sighash (reading.entry label)) a cache q
      (q.offer a.capacity (.schnorr signature key sighash) label) := by
  cases read : (Check.schnorr signature key sighash).item? with
  | none =>
    have refused :=
      Accumulator.yields_add_unread (w := ⟨a, cache⟩) (reading.entry label) h.sound read
    rw [OneQueue.offer_of_item?_none read]
    exact agrees_of_uncommitted rfl refused h rfl
  | some item =>
    have usability := BatchContext.yields_isUsable a.context
    have parsing := BatchContext.yields_parse key a.context
    rw [h.same_usable] at usability
    rw [OneQueue.offer_of_item? read]
    cases usable : q.usable with
    | false =>
      rw [usable] at usability
      rw [OneQueue.add_unusable usable]
      exact agrees_of_uncommitted rfl
        (Accumulator.yields_add_unusable (w := ⟨a, cache⟩) h.sound usability) h rfl
    | true =>
      rw [usable] at usability
      obtain ⟨parsed, hs, reads⟩ := Option.bind_eq_some_iff.mp read
      obtain ⟨point, hk, made⟩ := Option.bind_eq_some_iff.mp reads
      cases made
      rw [hk] at parsing
      exact h.add usable usability parsing hs (stands _ read) cache

end Tracks

end SigValidation
