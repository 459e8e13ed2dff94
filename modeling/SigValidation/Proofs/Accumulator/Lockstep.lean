import SigValidation.Proofs.Accumulator.Accounting
import SigValidation.Proofs.Accumulator.Refusals
/-!
# Entries and items in lockstep

The entries that wait are kept by the accumulator and the items of the batch by its backend. While
the backend is usable the two lists belong together place by place: each entry is the fingerprint of
the check that its item gives back (`Lockstep`). Adding a signature to such an accumulator comes to
one of five things, over any cache (`Added`). Each of them keeps the lockstep or poisons the lock,
and entries are committed only where the same call has just found their items valid (`Flushed`).
-/
namespace SigValidation

/-- The fingerprint of the check that an item gives back: that of the signature's bytes, of the key
written out again and of the signature hash. -/
def BatchItem.entry (item : BatchItem) : Fingerprint := item.question.fingerprint

/-- The entries that wait are those of the items, one beside the other. An unusable backend holds no
items. -/
structure Lockstep (a : Accumulator BatchContext) : Prop where
  same_capacity : a.context.capacity = a.capacity
  paired : a.context.usable = true → a.waiting = a.context.items.map BatchItem.entry
  drained : a.context.usable = false → a.context.items = []

namespace Accumulator

open Workspace

/-- What the secp256k1 context makes of a signature and what it tells. -/
inductive Presented (c : BatchContext) (question : Check) :
    Reply Notice BatchContext Reception → Prop where
  | ignored {reception : Reception} (untaken : reception.isTaken = false) :
      Presented c question ⟨.ok reception, c, []⟩
  | queued {item : BatchItem} (read : question.item? = some item) (usable : c.usable = true)
      (room : c.items.length ≠ c.capacity) :
      Presented c question ⟨.ok .taken, { c with items := c.items ++ [item] }, []⟩
  | flushed {item : BatchItem} (read : question.item? = some item) (usable : c.usable = true)
      (full : c.items.length = c.capacity) (sound : c.items.all BatchItem.isValid = true) :
      Presented c question ⟨.ok .taken, { c with items := [item] },
        [.batchVerified c.items.length true]⟩
  | failed (usable : c.usable = true) (full : c.items.length = c.capacity)
      (unsound : c.items.all BatchItem.isValid = false) :
      Presented c question
        ⟨.ok .rejected, { c with items := [], usable := false },
          [.batchVerified c.items.length false]⟩

/-- The context makes one of these things of every signature. -/
theorem presented (c : BatchContext) (signature : Bytes) (key : XOnlyKey) (sighash : SigHash) :
    Presented c (.schnorr signature key sighash) ((present signature key sighash).run c) := by
  have usability : (BatchBackend.isUsable : Routine Notice BatchContext Bool).run c =
    ⟨.ok c.usable, c, []⟩ := rfl
  have parsing : (BatchBackend.parse key : Routine Notice BatchContext _).run c =
      ⟨.ok (Curve.AffinePoint.ofXOnly? key.bytes), c, []⟩ := rfl
  unfold present
  rw [Routine.run_bind, usability]
  cases usable : c.usable with
  | false => exact .ignored rfl
  | true =>
    dsimp only
    rw [if_pos rfl, Routine.run_bind, parsing]
    cases hk : Curve.AffinePoint.ofXOnly? key.bytes with
    | none => exact .ignored rfl
    | some point =>
      have adding :
          (BatchBackend.add signature sighash point : Routine Notice BatchContext Bool).run c = _ :=
        BatchContext.run_add signature sighash point c
      dsimp only
      rw [Routine.run_bind, adding, usable]
      cases hs : Schnorr.Signature.ofBytes? signature with
      | none => exact .ignored rfl
      | some parsed =>
        have read : (Check.schnorr signature key sighash).item? = _ := Check.item?_eq_some hs hk
        by_cases full : c.items.length = c.capacity
        · cases sound : c.items.all BatchItem.isValid with
          | true => simpa [full, usable] using Presented.flushed read usable full sound
          | false => simpa [full] using Presented.failed usable full sound
        · simpa [full, usable] using Presented.queued read usable full

section Added

variable {κ : Type} [SignatureCache κ]

/-- What adding a signature to an accumulator in lockstep comes to. What is told first is what the
backend tells. -/
inductive Added (a : Accumulator BatchContext) (cache : κ) (question : Check)
    (entry : Fingerprint) : Reply Event (Workspace BatchContext κ) Bool → Prop where
  | ignored (events : List Event) : Added a cache question entry ⟨.ok false, ⟨a, cache⟩, events⟩
  | queued {item : BatchItem} (read : question.item? = some item) (usable : a.context.usable = true)
      (room : a.waiting.length ≠ a.capacity) (events : List Event) :
      Added a cache question entry
        ⟨.ok true,
          ⟨{ a with context := { a.context with items := a.context.items ++ [item] },
                    waiting := a.waiting ++ [entry] }, cache⟩,
          events⟩
  | flushed {item : BatchItem} {after : κ} {setting : List Notice}
      (read : question.item? = some item)
      (usable : a.context.usable = true) (full : a.waiting.length = a.capacity)
      (sound : a.context.items.all BatchItem.isValid = true)
      (sets : (setAll a.waiting).run cache = ⟨.ok (), after, setting⟩) (later : List Event) :
      Added a cache question entry
        ⟨.ok true,
          ⟨{ a with context := { a.context with items := [item] }, waiting := [entry] }, after⟩,
          .log (.batchVerified a.context.items.length true) :: later⟩
  | failed (usable : a.context.usable = true) (events : List Event) :
      Added a cache question entry
        ⟨.ok false,
          ⟨{ a with context := { a.context with items := [], usable := false } }, cache⟩, events⟩
  /-- The cache panics while the entries are set. -/
  | interrupted {item : BatchItem} {after : κ} {cause : Panic} {setting : List Notice}
      (usable : a.context.usable = true)
      (full : a.waiting.length = a.capacity) (sound : a.context.items.all BatchItem.isValid = true)
      (sets : (setAll a.waiting).run cache = ⟨.error cause, after, setting⟩) (later : List Event) :
      Added a cache question entry
        ⟨.error cause,
          ⟨{ a with context := { a.context with items := [item] }, waiting := [],
                    poisoned := true }, after⟩,
          .log (.batchVerified a.context.items.length true) :: later⟩

/-- What a verification comes to. -/
inductive Verified (a : Accumulator BatchContext) (cache : κ) :
    Reply Event (Workspace BatchContext κ) Bool → Prop where
  | unusable (events : List Event) : Verified a cache ⟨.ok false, ⟨a, cache⟩, events⟩
  | failed (events : List Event) :
      Verified a cache ⟨.ok false,
        ⟨{ a with context := { a.context with items := [], usable := false } }, cache⟩, events⟩
  | committed {after : κ} (events : List Event) :
      Verified a cache
        ⟨.ok true,
          ⟨{ a with context := { a.context with items := [], usable := true }, waiting := [] },
            after⟩, events⟩
  | interrupted {after : κ} {cause : Panic} {setting : List Notice}
      (sets : (setAll a.waiting).run cache = ⟨.error cause, after, setting⟩) (events : List Event) :
      Verified a cache
        ⟨.error cause,
          ⟨{ a with context := { a.context with items := [], usable := true }, waiting := [],
                    poisoned := true }, after⟩, events⟩

theorem verified {a : Accumulator BatchContext} (sound : a.poisoned = false) (cache : κ) :
    Verified a cache
      ((Accumulator.verify : Routine Event (Workspace BatchContext κ) Bool).run ⟨a, cache⟩) := by
  have asking : (BatchBackend.verify : Routine Notice BatchContext Bool).run a.context = _ :=
    BatchContext.run_verify a.context
  rw [Accumulator.verify, run_locked (w := ⟨a, cache⟩) sound, Routine.run_bind,
    onContext, Routine.run_onPart, asking]
  cases usable : a.context.usable with
  | false => exact .unusable _
  | true =>
    cases valid : a.context.items.all BatchItem.isValid with
    | false => exact .failed _
    | true =>
      simp only [if_true, Routine.run_bind, run_commit, waiting_withContext, cache_withContext]
      cases sets : (setAll a.waiting).run cache with
      | mk outcome after setting =>
        cases outcome with
        | error cause => exact .interrupted sets _
        | ok _ => exact .committed _

end Added

end Accumulator

namespace Lockstep

open Accumulator Workspace

variable {κ : Type} [SignatureCache κ] {a : Accumulator BatchContext}

theorem length_waiting (h : Lockstep a) (usable : a.context.usable = true) :
    a.waiting.length = a.context.items.length := by
  rw [h.paired usable, List.length_map]

/-- There are as many entries as items, so that the batch is full when as many entries wait as it
has room for. -/
theorem full_iff (h : Lockstep a) (usable : a.context.usable = true) :
    a.context.items.length = a.context.capacity ↔ a.waiting.length = a.capacity := by
  rw [h.length_waiting usable, h.same_capacity]

/-- Adding a signature to an accumulator in lockstep is one of the five cases. -/
theorem added (h : Lockstep a) (sound : a.poisoned = false) (cache : κ) (signature : Bytes)
    (key : XOnlyKey) (sighash : SigHash) (entry : Fingerprint) :
    Added a cache (.schnorr signature key sighash) entry
      ((Accumulator.add signature key sighash entry :
        Routine Event (Workspace BatchContext κ) Bool).run ⟨a, cache⟩) := by
  have outcome := presented a.context signature key sighash
  rw [add_eq, run_locked (w := ⟨a, cache⟩) sound, Routine.run_bind, onContext, Routine.run_onPart]
  generalize (present signature key sighash).run a.context = reply at outcome
  cases outcome with
  | @ignored reception untaken =>
    cases reception with
    | taken => cases untaken
    | unusable | malformed | rejected => exact .ignored _
  | failed usable full unsound => exact .failed usable _
  | @queued item read usable room =>
    rw [ne_eq, h.full_iff usable] at room
    simp only [settle, Routine.run_bind]
    rw [run_enqueue_room (w := withContext ⟨a, cache⟩
      { a.context with items := a.context.items ++ [item] }) room]
    exact .queued read usable room _
  | @flushed item read usable full valid =>
    rw [h.full_iff usable] at full
    simp only [settle, Routine.run_bind]
    rw [run_enqueue_full (w := withContext ⟨a, cache⟩ { a.context with items := [item] }) full]
    simp only [waiting_withContext, cache_withContext]
    cases sets : (setAll a.waiting).run cache with
    | mk outcome after setting =>
      cases outcome with
      | error cause => exact .interrupted usable full valid sets _
      | ok _ => exact .flushed read usable full valid sets _

/-- Both lists grow at their ends, or start anew with what was just added, or the items are given
up. -/
theorem of_added (h : Lockstep a) {cache : κ} {question : Check}
    {reply : Reply Event (Workspace BatchContext κ) Bool}
    (outcome : Added a cache question question.fingerprint reply)
    (sound : reply.state.accumulator.poisoned = false) : Lockstep reply.state.accumulator := by
  have own {item : BatchItem} (read : question.item? = some item) : question.fingerprint =
    item.entry := by
    rw [BatchItem.entry, Check.question_of_item? read]
  cases outcome with
  | ignored => exact h
  | queued read usable room =>
    refine ⟨h.same_capacity, fun _ => ?_,
      fun unusable => absurd (usable.symm.trans unusable) Bool.noConfusion⟩
    simp only [h.paired usable, own read, List.map_append, List.map_cons, List.map_nil]
  | flushed read usable full valid sets =>
    refine ⟨h.same_capacity, fun _ => ?_,
      fun unusable => absurd (usable.symm.trans unusable) Bool.noConfusion⟩
    simp only [own read, List.map_cons, List.map_nil]
  | failed => exact ⟨h.same_capacity, (fun usable => by cases usable), fun _ => rfl⟩
  | interrupted => cases sound

/-- Only a cache that panics while entries are set poisons the lock. -/
theorem sound_of_added [CalmCache κ] (sound : a.poisoned = false) {cache : κ} {question : Check}
    {entry : Fingerprint} {reply : Reply Event (Workspace BatchContext κ) Bool}
    (outcome : Added a cache question entry reply) : reply.state.accumulator.poisoned = false := by
  cases outcome with
  | ignored | queued | flushed | failed => exact sound
  | interrupted usable full valid sets => cases (eq_of_run_setAll sets).1

/-- Both lists are emptied, or the items are given up. -/
theorem of_verified (h : Lockstep a) {cache : κ}
    {reply : Reply Event (Workspace BatchContext κ) Bool} (outcome : Verified a cache reply)
    (sound : reply.state.accumulator.poisoned = false) : Lockstep reply.state.accumulator := by
  cases outcome with
  | unusable => exact h
  | failed => exact ⟨h.same_capacity, (fun usable => by cases usable), fun _ => rfl⟩
  | committed => exact ⟨h.same_capacity, fun _ => rfl, fun _ => rfl⟩
  | interrupted => cases sound

theorem sound_of_verified [CalmCache κ] (sound : a.poisoned = false) {cache : κ}
    {reply : Reply Event (Workspace BatchContext κ) Bool} (outcome : Verified a cache reply) :
    reply.state.accumulator.poisoned = false := by
  cases outcome with
  | unusable | failed | committed => exact sound
  | interrupted sets => cases (eq_of_run_setAll sets).1

end Lockstep

namespace Logged

variable {κ : Type} [SignatureCache κ]

/-- However setting some entries ends, what was set is a first part of them. -/
theorem exists_prefix_of_run_setAll {entries : List Fingerprint} {l after : Logged κ}
    {outcome : Except Panic Unit} {setting : List Notice}
    (run : (setAll entries).run l = ⟨outcome, after, setting⟩) :
    ∃ gained, gained <+: entries ∧ after.sets = l.sets ++ gained := by
  induction entries generalizing l outcome after setting with
  | nil =>
    cases run
    exact ⟨[], List.prefix_rfl, (List.append_nil _).symm⟩
  | cons entry rest ih =>
    have setting_eq : (SignatureCache.set entry).run l =
        (onInner (SignatureCache.set entry) >>= fun _ =>
          Routine.modify fun l : Logged κ => { l with sets := l.sets ++ [entry] }).run l := rfl
    rw [setAll, Routine.run_bind, setting_eq, Routine.run_bind, onInner, Routine.run_onPart] at run
    cases set : (SignatureCache.set entry).run l.cache with
    | mk answer cache told =>
      rw [set] at run
      cases answer with
      | error cause =>
        cases run
        exact ⟨[], List.nil_prefix, (List.append_nil _).symm⟩
      | ok _ =>
        cases later : (setAll rest).run (⟨cache, l.sets ++ [entry]⟩ : Logged κ) with
        | mk outcome' after' told' =>
          obtain ⟨gained, part, sets_eq⟩ := ih later
          simp only [Routine.run_modify, later] at run
          cases run
          refine ⟨entry :: gained, List.cons_prefix_cons.mpr ⟨rfl, part⟩, ?_⟩
          rw [sets_eq, List.append_assoc, List.singleton_append]

end Logged

/-- A call that flushed a full batch: the backend verified the batch in this very call, found every
item valid, and what was set in the cache are the entries of these items, all of them if the call
answers and else a first part. -/
structure Flushed {κ : Type} [SignatureCache κ] (a : Accumulator BatchContext) (l : Logged κ)
    (reply : Reply Event (Workspace BatchContext (Logged κ)) Bool) : Prop where
  full : a.context.items.length = a.capacity
  valid : ∀ item ∈ a.context.items, item.isValid = true
  told : ∃ later, reply.events = .log (.batchVerified a.context.items.length true) :: later
  sets : ∃ gained, gained <+: a.context.items.map BatchItem.entry ∧
    reply.state.cache.sets = l.sets ++ gained ∧
    (reply.outcome = .ok true → gained = a.context.items.map BatchItem.entry)

namespace Lockstep

open Accumulator

variable {κ : Type} [SignatureCache κ] {a : Accumulator BatchContext}

/-- A full batch is verified before it takes one more signature, so all its items are valid. -/
theorem flushed (h : Lockstep a) {l : Logged κ} {question : Check} {entry : Fingerprint}
    {reply : Reply Event (Workspace BatchContext (Logged κ)) Bool}
    (outcome : Added a l question entry reply) (full : a.waiting.length = a.capacity)
    (taken : reply.outcome ≠ .ok false) : Flushed a l reply := by
  have items_full (usable : a.context.usable = true) : a.context.items.length = a.capacity := by
    rw [← h.length_waiting usable, full]
  cases outcome with
  | ignored | failed => exact absurd rfl taken
  | queued read usable room => exact absurd full room
  | flushed read usable _ valid sets later =>
    have all_set : (setAll a.waiting).Yields l () _ := ⟨_, sets⟩
    refine ⟨items_full usable, List.all_eq_true.mp valid, ⟨later, rfl⟩, _,
      List.prefix_rfl, ?_, fun _ => rfl⟩
    rw [Logged.sets_of_setAll all_set, h.paired usable]
  | interrupted usable _ valid sets later =>
    obtain ⟨gained, part, sets_eq⟩ := Logged.exists_prefix_of_run_setAll sets
    rw [h.paired usable] at part
    exact ⟨items_full usable, List.all_eq_true.mp valid, ⟨later, rfl⟩, gained, part, sets_eq, nofun⟩

end Lockstep

/-- A call that does not flush sets nothing. -/
theorem Accumulator.Added.cache_eq {κ : Type} [SignatureCache κ] {a : Accumulator BatchContext}
    {cache : κ} {question : Check} {entry : Fingerprint}
    {reply : Reply Event (Workspace BatchContext κ) Bool}
    (outcome : Added a cache question entry reply)
    (kept : a.waiting.length ≠ a.capacity ∨ reply.outcome = .ok false) :
    reply.state.cache = cache := by
  cases outcome with
  | ignored | queued | failed => rfl
  | flushed read usable full | interrupted usable full =>
    rcases kept with room | refused
    · exact absurd full room
    · cases refused

end SigValidation
