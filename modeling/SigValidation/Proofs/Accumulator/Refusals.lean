import SigValidation.Proofs.Accumulator.Outcomes
import SigValidation.Proofs.Backend.Contract
/-!
# What a refusal leaves

A signature of a wrong length and a key that is no point are refused before anything happens, be the
batch full, be it invalid, be the context unusable: the whole workspace stays as it is
(`yields_malformed`), so that a run goes on as if the call had not been made. Any other call that is
answered no leaves an unusable context with nothing in it, while the entries wait on and the cache
is not touched. Neither asks for a cache that never panics: a panic poisons the lock, and nothing is
answered under a poisoned lock.
-/
namespace SigValidation

variable {κ : Type} [SignatureCache κ]

namespace Accumulator

/-- The call brings what no batch takes: a signature of a wrong length, or a key that is no
point. -/
def Operation.isMalformed : Operation → Bool
  | add signature key _ _ =>
      signature.length ≠ Schnorr.signatureSize || (Curve.AffinePoint.ofXOnly? key.bytes).isNone
  | verify => false

theorem Operation.unread_of_isMalformed {signature : Bytes} {key : XOnlyKey} {sighash : SigHash}
    {entry : Fingerprint} (malformed : (add signature key sighash entry).isMalformed = true) :
    (Check.schnorr signature key sighash).item? = none := by
  cases hk : Curve.AffinePoint.ofXOnly? key.bytes with
  | none => exact Check.item?_eq_none_of_key hk
  | some point =>
    have hs : Schnorr.Signature.ofBytes? signature = none := by
      simpa [isMalformed, hk, Schnorr.Signature.ofBytes?] using malformed
    exact Check.item?_eq_none_of_signature hs

/-- One call of a run: the workspace it meets, what it comes to, and the workspace it leaves. -/
structure Turn (κ : Type) where
  before : Workspace BatchContext κ
  operation : Operation
  answer : Except Panic Bool
  after : Workspace BatchContext κ

def turns : List Operation → Workspace BatchContext κ → List (Turn κ)
  | [], _ => []
  | operation :: rest, w =>
    let reply := operation.perform.run w
    ⟨w, operation, reply.outcome, reply.state⟩ :: turns rest reply.state

section Malformed

variable {operation : Operation} {w : Workspace BatchContext κ}

/-- A malformed signature is answered no and changes nothing. -/
theorem yields_malformed (malformed : operation.isMalformed = true)
    (sound : w.accumulator.poisoned = false) : operation.perform.Yields w false w := by
  cases operation with
  | verify => cases malformed
  | add signature key sighash entry =>
    exact yields_add_unread entry sound (Operation.unread_of_isMalformed malformed)

/-- Also under a poisoned lock a malformed call leaves the workspace as it is. -/
theorem state_malformed (malformed : operation.isMalformed = true) :
    (operation.perform.run w).state = w := by
  cases poisoned : w.accumulator.poisoned with
  | false => exact (yields_malformed malformed poisoned).state_eq
  | true =>
    have barred : operation.perform.run w = ⟨.error .poisonedLock, w, []⟩ := by
      cases operation <;> exact Workspace.run_locked_poisoned poisoned
    rw [barred]

end Malformed

/-- A run goes on after a malformed call as it would have without it. -/
theorem filter_turns (operations : List Operation) (w : Workspace BatchContext κ) :
    (turns operations w).filter (fun turn => !turn.operation.isMalformed) =
      turns (operations.filter fun operation => !operation.isMalformed) w := by
  induction operations generalizing w with
  | nil => rfl
  | cons operation rest ih =>
    cases malformed : operation.isMalformed with
    | true => simp [turns, malformed, state_malformed, ih]
    | false => simp [turns, malformed, ih]

section Context

/-- Whether the signature is now in the batch. -/
def Reception.isTaken : Reception → Bool
  | taken => true
  | unusable | malformed | rejected => false

variable {signature : Bytes} {key : XOnlyKey} {sighash : SigHash} {entry : Fingerprint}
  {reception : Reception}

theorem context_enqueue {σ : Type} (entry : Fingerprint) (w : Workspace σ κ) :
    ((enqueue entry).run w).state.accumulator.context = w.accumulator.context := by
  by_cases full : w.accumulator.waiting.length = w.accumulator.capacity
  · rw [run_enqueue_full full]
    split <;> rfl
  · rw [run_enqueue_room full]
    rfl

theorem context_commit {σ : Type} (w : Workspace σ κ) :
    (commit.run w).state.accumulator.context = w.accumulator.context := by
  rw [run_commit]
  split <;> rfl

/-- What the accumulator does about a signature that the backend has had does not concern the
backend. -/
theorem of_yields_settle {σ : Type} {w v : Workspace σ κ} {answer : Bool}
    (step : (settle key sighash entry reception).Yields w answer v) :
    answer = reception.isTaken ∧ v.accumulator.context = w.accumulator.context := by
  cases reception with
  | taken =>
    obtain ⟨_, u, enqueued, answered⟩ := step.of_bind
    have answer_eq : true = answer := Except.ok.inj answered.outcome_eq
    have state_eq : u = v := answered.state_eq
    rw [← answer_eq, ← state_eq, ← enqueued.state_eq]
    exact ⟨rfl, context_enqueue entry w⟩
  | unusable | malformed | rejected =>
    have answer_eq : false = answer := Except.ok.inj step.outcome_eq
    have state_eq : w = v := step.state_eq
    rw [← answer_eq, ← state_eq]
    exact ⟨rfl, rfl⟩

theorem context_of_yields_add {σ : Type} [BatchBackend σ] {w v : Workspace σ κ} {answer : Bool}
    (step : (Accumulator.add signature key sighash entry).Yields w answer v) :
    ∃ reception,
      (present signature key sighash).Yields w.accumulator.context reception v.accumulator.context ∧
      answer = reception.isTaken := by
  rw [add_eq] at step
  obtain ⟨_, step⟩ := Workspace.of_yields_locked step
  obtain ⟨reception, u, presented, settled⟩ := step.of_bind
  obtain ⟨context, received, rfl⟩ := presented.of_onPart
  obtain ⟨answer_eq, context_eq⟩ := of_yields_settle settled
  rw [context_eq]
  exact ⟨reception, received, answer_eq⟩

theorem context_of_yields_verify {σ : Type} [BatchBackend σ] {w v : Workspace σ κ} {answer : Bool}
    (step : Accumulator.verify.Yields w answer v) :
    BatchBackend.verify.Yields w.accumulator.context answer v.accumulator.context := by
  obtain ⟨_, step⟩ := Workspace.of_yields_locked step
  obtain ⟨valid, u, asked, settled⟩ := step.of_bind
  obtain ⟨context, verified, rfl⟩ := asked.of_onPart
  cases valid with
  | true =>
    obtain ⟨_, u, committed, answered⟩ := settled.of_bind
    have answer_eq : true = answer := Except.ok.inj answered.outcome_eq
    have state_eq : u = v := answered.state_eq
    rw [← answer_eq, ← state_eq, ← committed.state_eq, context_commit]
    exact verified
  | false =>
    have answer_eq : false = answer := Except.ok.inj settled.outcome_eq
    have state_eq : Workspace.withContext w context = v := settled.state_eq
    rw [← answer_eq, ← state_eq]
    exact verified

end Context

section Batch

variable {operation : Operation} {w v : Workspace BatchContext κ} {answer : Bool}

/-- The secp256k1 context has a signature added as soon as its key is read. -/
theorem performed_of_present {signature : Bytes} {key : XOnlyKey} {sighash : SigHash}
    {point : Curve.AffinePoint} {c after : BatchContext} {reception : Reception}
    (read : Curve.AffinePoint.ofXOnly? key.bytes = some point)
    (presented : (present signature key sighash).Yields c reception after) :
    BatchContext.Performed c (.add signature sighash point) reception.isTaken after := by
  have usability := BatchContext.yields_isUsable c
  have parsing := BatchContext.yields_parse key c
  rw [read] at parsing
  cases usable : c.usable with
  | false =>
    rw [usable] at usability
    have refused : (present signature key sighash).Yields c .unusable c :=
      usability.bind (Routine.yields_pure _ c)
    obtain ⟨rfl, rfl⟩ := presented.unique refused
    exact .unusable usable
  | true =>
    rw [usable] at usability
    obtain ⟨taken, left, added, outcome⟩ := BatchContext.performed (.add signature sighash point) c
    have received : (present signature key sighash).Yields c
      (if taken then .taken else .rejected) left := by
      refine usability.bind (parsing.bind (added.bind ?_))
      cases taken <;> exact Routine.yields_pure _ left
    obtain ⟨rfl, rfl⟩ := presented.unique received
    cases taken <;> exact outcome

/-- A well-formed call that is answered is one well-formed call of the context. -/
theorem performed_of_yields (wellFormed : operation.isMalformed = false)
    (step : operation.perform.Yields w answer v) :
    ∃ call : BatchContext.Operation, call.WellFormed ∧
      BatchContext.Performed w.accumulator.context call answer v.accumulator.context := by
  cases operation with
  | verify =>
    obtain ⟨valid, after, verified, outcome⟩ := BatchContext.performed .verify w.accumulator.context
    obtain ⟨rfl, rfl⟩ := verified.unique (context_of_yields_verify step)
    exact ⟨.verify, trivial, outcome⟩
  | add signature key sighash entry =>
    obtain ⟨reception, presented, rfl⟩ := context_of_yields_add step
    rw [Operation.isMalformed, Bool.or_eq_false_iff, decide_eq_false_iff_not,
      not_not, Option.isNone_eq_false_iff] at wellFormed
    obtain ⟨length_eq, reads⟩ := wellFormed
    obtain ⟨point, read⟩ := Option.isSome_iff_exists.mp reads
    exact ⟨.add signature sighash point, length_eq, performed_of_present read presented⟩

/-- A call that leaves the lock as it should be was answered. -/
theorem yields_of_sound (sound : (operation.perform.run w).state.accumulator.poisoned = false) :
    w.accumulator.poisoned = false ∧ ∃ answer, operation.perform.Yields w answer
      (operation.perform.run w).state := by
  have outcome := performed operation w
  cases reply : operation.perform.run w with
  | mk answer after events =>
    rw [reply] at sound outcome
    cases outcome with
    | barred poisoned => exact absurd (poisoned.symm.trans sound) Bool.noConfusion
    | broken | interrupted => cases sound
    | refused unlocked | queued unlocked | flushed unlocked | verified unlocked =>
      exact ⟨unlocked, _, _, reply⟩

/-- While the lock is not poisoned, an unusable context holds nothing. -/
def Drained (w : Workspace BatchContext κ) : Prop :=
  w.accumulator.poisoned = false → w.accumulator.context.usable = false →
    w.accumulator.context.items = []

/-- Only an answered call has to be looked at, for a panic leaves the lock poisoned. -/
theorem Drained.perform (h : Drained w) (operation : Operation) :
    Drained (operation.perform.run w).state := by
  intro sound
  obtain ⟨before, answer, step⟩ := yields_of_sound sound
  cases malformed : operation.isMalformed with
  | true =>
    rw [state_malformed malformed]
    exact h before
  | false =>
    obtain ⟨call, _, outcome⟩ := performed_of_yields malformed step
    exact outcome.drained (h before)

end Batch

/-- What a turn that is refused leaves behind. -/
structure Turn.Traceless (turn : Turn κ) : Prop where
  /-- A malformed call changes nothing at all, and is answered no unless a panic has poisoned the
  lock. -/
  malformed : turn.operation.isMalformed = true →
    turn.after = turn.before ∧ (turn.before.accumulator.poisoned = false → turn.answer = .ok false)
  /-- Any other call that is answered no leaves the entries and the cache alone, and the context
  unusable and empty. -/
  refused : turn.operation.isMalformed = false → turn.answer = .ok false →
    turn.after.accumulator.waiting = turn.before.accumulator.waiting ∧
      turn.after.cache = turn.before.cache ∧
      turn.after.accumulator.context.usable = false ∧ turn.after.accumulator.context.items = []

/-- In a drained workspace every refused call leaves no trace. -/
theorem Drained.traceless {w : Workspace BatchContext κ} (h : Drained w) (operation : Operation) :
    Turn.Traceless ⟨w, operation, (operation.perform.run w).outcome,
      (operation.perform.run w).state⟩ where
  malformed malformed :=
    ⟨state_malformed malformed, fun sound => (yields_malformed malformed sound).outcome_eq⟩
  refused wellFormed no := by
    have step : operation.perform.Yields w false (operation.perform.run w).state :=
      Routine.yields_of_outcome_eq no
    obtain ⟨call, called, outcome⟩ := performed_of_yields wellFormed step
    obtain ⟨events, reply⟩ := Performed.of_yields step
    have unusable := outcome.unusable_of_refused called
    generalize (operation.perform.run w).state = after at *
    cases reply with
    | refused sound => exact ⟨rfl, rfl, unusable, outcome.drained (h sound) unusable⟩

theorem Drained.each_traceless {w : Workspace BatchContext κ} (h : Drained w)
    (operations : List Operation) : ∀ turn ∈ turns operations w, turn.Traceless := by
  induction operations generalizing w with
  | nil => simp [turns]
  | cons operation rest ih =>
    exact List.forall_mem_cons.mpr ⟨h.traceless operation, ih (h.perform operation)⟩

/-- Over a cache that never panics nothing ever poisons the lock. -/
theorem sound_turns [CalmCache κ] {a : Accumulator BatchContext} {q : OneQueue Fingerprint}
    (h : Tracks .callbacks a q) (operations : List Operation) (cache : κ) :
    ∀ turn ∈ turns operations ⟨a, cache⟩, turn.before.accumulator.poisoned = false := by
  induction operations generalizing a q cache with
  | nil => simp [turns]
  | cons operation rest ih =>
    obtain ⟨after, step, tracks, _⟩ := h.operation operation cache
    have state_eq : (operation.perform.run ⟨a, cache⟩).state = ⟨after, _⟩ := step.state_eq
    refine List.forall_mem_cons.mpr ⟨h.sound, ?_⟩
    rw [state_eq]
    exact ih tracks _

/-- For every capacity, every cache and every sequence of calls: without the malformed calls the
others meet and leave the very same workspaces and get the same answers, and whatever is refused
leaves behind no more than it may. No call meets a poisoned lock if the cache never panics. -/
theorem turns_traceless {capacity : Nat} (positive : 0 < capacity) (operations : List Operation)
    (cache : κ) :
    (turns operations ⟨fresh capacity positive, cache⟩).filter
      (fun turn => !turn.operation.isMalformed) =
        turns (operations.filter fun operation => !operation.isMalformed)
          ⟨fresh capacity positive, cache⟩ ∧
      (∀ turn ∈ turns operations ⟨fresh capacity positive, cache⟩, turn.Traceless) ∧
      (CalmCache κ → ∀ turn ∈ turns operations ⟨fresh capacity positive, cache⟩,
        turn.before.accumulator.poisoned = false) := by
  have drained : Drained ⟨fresh capacity positive, cache⟩ := by
    intro _ unusable
    cases unusable
  exact ⟨filter_turns operations _, drained.each_traceless operations,
    fun _ => sound_turns (.fresh positive) operations cache⟩

/-- A batch of one holds an invalid signature: a short one meets it and is refused, one of the right
length has it verified, and under the context that is now unusable a key that is no point is refused
as well. -/
theorem turns_traceless_failing :
    let key : XOnlyKey :=
      ⟨Bytes32.ofNat 0x79be667ef9dcbbac55a06295ce870b07029bfcdb2dce28d959f2815b16f81798⟩
    let add := fun length key =>
      Operation.add (List.replicate length 0xff) key ⟨Bytes32.replicate 0⟩ ⟨Bytes32.replicate 0⟩
    let operations := [add 64 key, add 63 key, add 64 key, add 64 ⟨Bytes32.replicate 0xff⟩, .verify]
    let start : Workspace BatchContext BoundedCache := ⟨fresh 1 Nat.one_pos, ⟨1, [], fun _ => 0⟩⟩
    0 < 1 ∧ CalmCache BoundedCache ∧
      (turns operations start).filter (fun turn => !turn.operation.isMalformed) =
        turns [add 64 key, add 64 key, .verify] start ∧
      (∀ turn ∈ turns operations start, turn.Traceless) ∧
      (∀ turn ∈ turns operations start, turn.before.accumulator.poisoned = false) ∧
      (turns operations start).map Turn.answer =
        [.ok true, .ok false, .ok false, .ok false, .ok false] := by
  intro key add operations start
  obtain ⟨others, traceless, sound⟩ :=
    turns_traceless Nat.one_pos operations (⟨1, [], fun _ => 0⟩ : BoundedCache)
  have taken : (add 64 key).isMalformed = false := by decide +kernel
  have short : (add 63 key).isMalformed = true := by decide +kernel
  have unread : (add 64 ⟨Bytes32.replicate 0xff⟩).isMalformed = true := by decide +kernel
  have asked : Operation.verify.isMalformed = false := rfl
  have kept : (operations.filter fun operation => !operation.isMalformed) =
    [add 64 key, add 64 key, .verify] := by
    simp only [operations, List.filter, taken, short, unread, asked, Bool.not_true, Bool.not_false]
  rw [kept] at others
  exact ⟨Nat.one_pos, inferInstance, others, traceless, sound inferInstance, by decide +kernel⟩

end Accumulator

end SigValidation
