import SigValidation.Proofs.Backend.Ledger
/-!
# The contract of the secp256k1 context

After any calls the context is usable unless a verification went through a batch with an invalid
signature, and it holds the current batch of its ledger. What it answers next is decided by these
two alone (`Performed.answer_iff`). A context that has become unusable is empty, and no later call
changes it or is answered yes.
-/
namespace SigValidation.BatchContext

open Curve

/-- A call that brings a signature brings as many bytes as a signature has. -/
def Operation.WellFormed : Operation → Prop
  | add signature _ _ => signature.length = Schnorr.signatureSize
  | verify => True

theorem Operation.wellFormed_of_item? {operation : Operation} {item : BatchItem}
    (read : operation.item? = some item) : operation.WellFormed := by
  cases operation with
  | add signature sighash key => exact length_of_item? read
  | verify => trivial

/-- The context is usable, and a verification would succeed. -/
structure Healthy (c : BatchContext) : Prop where
  usable : c.usable = true
  valid : c.items.all BatchItem.isValid = true

namespace Performed

variable {c after : BatchContext} {operation : Operation} {answer : Bool}

/-- A call is answered yes if nothing speaks against it: the context is usable, the call is
well-formed, and the batch is valid if the call has it verified. -/
theorem answer_iff (outcome : Performed c operation answer after) :
    answer = true ↔ c.usable = true ∧ operation.WellFormed ∧
      (operation.verifies c.capacity c.items = true → c.items.all BatchItem.isValid = true) := by
  cases outcome with
  | unusable unusable =>
    refine iff_of_false Bool.false_ne_true ?_
    rintro ⟨usable, _⟩
    rw [unusable] at usable
    cases usable
  | malformed malformed =>
    refine iff_of_false Bool.false_ne_true ?_
    rintro ⟨_, wellFormed, _⟩
    exact malformed wellFormed
  | taken usable read room =>
    refine iff_of_true rfl ⟨usable, Operation.wellFormed_of_item? read, ?_⟩
    rw [Operation.verifies_of_item? read, decide_eq_false room]
    exact fun closes => absurd closes Bool.false_ne_true
  | flushed usable read full valid =>
    exact iff_of_true rfl ⟨usable, Operation.wellFormed_of_item? read, fun _ => valid⟩
  | verified usable valid => exact iff_of_true rfl ⟨usable, trivial, fun _ => valid⟩
  | failed usable closes invalid =>
    refine iff_of_false Bool.false_ne_true ?_
    rintro ⟨_, _, valid⟩
    rw [valid closes] at invalid
    cases invalid

/-- A well-formed call that is answered no leaves the context unusable. -/
theorem unusable_of_refused (wellFormed : operation.WellFormed)
    (outcome : Performed c operation false after) : after.usable = false := by
  cases outcome with
  | unusable unusable => exact unusable
  | malformed malformed => exact absurd wellFormed malformed
  | failed => rfl

/-- A signature that is valid leaves a healthy context healthy, and so does a verification. -/
theorem healthy (outcome : Performed c operation answer after) (before : c.Healthy)
    (genuine : ∀ item, operation.item? = some item → item.isValid = true) : after.Healthy := by
  cases outcome with
  | unusable | malformed => exact before
  | taken usable read =>
    refine ⟨usable, ?_⟩
    rw [List.all_append, before.valid, List.all_cons, genuine _ read]
    rfl
  | flushed usable read =>
    refine ⟨rfl, ?_⟩
    rw [List.all_cons, genuine _ read]
    rfl
  | verified => exact ⟨rfl, rfl⟩
  | failed usable verifies invalid =>
    exact absurd (before.valid.symm.trans invalid) Bool.noConfusion

/-- A verification leaves nothing behind, be it a good one or not. -/
theorem items_of_verify (drained : c.usable = false → c.items = [])
    (outcome : Performed c .verify answer after) : after.items = [] := by
  cases outcome with
  | unusable unusable => exact drained unusable
  | taken _ read => cases read
  | flushed _ read => cases read
  | verified => rfl
  | failed => rfl

/-- A signature that is taken comes last in its batch, and alone in it if the batch before was
full. -/
theorem items_of_add {signature : Bytes} {sighash : SigHash} {key : AffinePoint}
    (wellFormed : signature.length = Schnorr.signatureSize)
    (outcome : Performed c (.add signature sighash key) true after) :
    after.items =
      (if c.items.length = c.capacity then [] else c.items) ++
        [⟨⟨signature, wellFormed⟩, sighash, key⟩] := by
  cases outcome with
  | taken usable read room =>
    rw [Operation.item?_of_length sighash key wellFormed] at read
    cases read
    rw [if_neg room]
  | flushed usable read full valid =>
    rw [Operation.item?_of_length sighash key wellFormed] at read
    cases read
    rw [if_pos full]
    rfl

end Performed

/-- An unusable context answers no to whatever is called and stays as it is. -/
theorem performAll_unusable {c : BatchContext} (unusable : c.usable = false)
    (operations : List Operation) :
    (performAll operations).Yields c (List.replicate operations.length false) c := by
  induction operations with
  | nil => exact Routine.yields_pure _ c
  | cons operation rest ih =>
    exact (yields_perform_unusable operation unusable).bind (ih.bind (Routine.yields_pure _ _))

/-- What a context with such a ledger is, and what it makes of the next call. -/
structure Contract (capacity : Nat) (l : Ledger) (c : BatchContext) : Prop where
  is_usable : BatchBackend.isUsable.Yields c c.usable c
  /-- The context is unusable exactly if a verification, asked for or not, went through a batch with
  an invalid signature. -/
  unusable_iff : c.usable = false ↔ ∃ batch ∈ l.verified, ∃ item ∈ batch, item.isValid = false
  /-- It holds the current batch, in order. -/
  holds : c.items = l.current
  verify : ∃ answer after, BatchBackend.verify.Yields c answer after ∧ after.items = [] ∧
    (answer = true ↔ c.usable = true ∧ ∀ item ∈ l.current, item.isValid = true)
  /-- A signature of the right length finds room, or it has a full batch verified and is alone in
  the next one. -/
  add : ∀ (signature : Bytes) (sighash : SigHash) (key : AffinePoint), ∃ answer after,
    (BatchBackend.add signature sighash key).Yields c answer after ∧
    (answer = true ↔ c.usable = true ∧ signature.length = Schnorr.signatureSize ∧
      (l.current.length ≠ capacity ∨ ∀ item ∈ l.current, item.isValid = true)) ∧
    (answer = true → ∀ wellFormed : signature.length = Schnorr.signatureSize,
      after.items =
        (if l.current.length = capacity then [] else l.current) ++
          [⟨⟨signature, wellFormed⟩, sighash, key⟩])
  /-- Once unusable, the context stays so and stays empty, and every later call is answered no. -/
  unusable : c.usable = false →
    c.items = [] ∧ ∀ operations, (performAll operations).Yields c
      (List.replicate operations.length false) c

/-- A context that is what its ledger says keeps the contract. -/
theorem Posted.contract {capacity : Nat} {said : List (Operation × Bool)} {c : BatchContext}
    (h : Posted capacity said c) : Contract capacity (Ledger.ofCalls capacity said) c where
  is_usable := yields_isUsable c
  unusable_iff := by
    rw [h.usable_eq]
    exact Ledger.isSound_eq_false_iff
  holds := h.items_eq
  verify := by
    obtain ⟨answer, after, step, outcome⟩ := performed .verify c
    refine ⟨answer, after, step, outcome.items_of_verify h.drained, ?_⟩
    rw [outcome.answer_iff, ← h.items_eq, ← List.all_eq_true]
    exact and_congr_right fun _ => ⟨fun yes => yes.2 rfl, fun valid => ⟨trivial, fun _ => valid⟩⟩
  add := by
    intro signature sighash key
    obtain ⟨answer, after, step, outcome⟩ := performed (.add signature sighash key) c
    rw [← h.items_eq, ← h.same_capacity, ← List.all_eq_true]
    refine ⟨answer, after, step, ?_, ?_⟩
    · rw [outcome.answer_iff]
      refine and_congr_right fun _ => and_congr_right fun wellFormed => ?_
      rw [Operation.verifies_of_item? (Operation.item?_of_length sighash key wellFormed),
        decide_eq_true_iff]
      exact Decidable.imp_iff_not_or
    · rintro rfl wellFormed
      exact outcome.items_of_add wellFormed
  unusable unusable := ⟨h.drained unusable, performAll_unusable unusable⟩

/-- For every capacity and every sequence of calls on a new context: no call panics, and the context
that is left keeps the contract of a batch backend. -/
theorem performAll_contract {capacity : Nat} {start : BatchContext}
    (made : create capacity = .ok start) (operations : List Operation) :
    ∃ answers c,
      (performAll operations).Yields start answers c ∧ answers.length = operations.length ∧
      Contract capacity (Ledger.ofCalls capacity (operations.zip answers)) c := by
  obtain ⟨answers, c, run, lengths, posted⟩ :=
    performAll_keeps operations Posted.step (Posted.fresh capacity)
  rw [eq_of_create made]
  exact ⟨answers, c, run, lengths, posted.contract⟩

/-- A full batch of one invalid signature: a signature that is too short is refused and nothing else
happens, one of the right length sets the verification off, and nothing is taken any more. -/
theorem performAll_contract_failing :
    let operations := [Operation.forged 64, .forged 63, .forged 64, .verify]
    create 1 = .ok { capacity := 1 } ∧
      ∃ answers c, (performAll operations).Yields { capacity := 1 } answers c ∧
        answers.length = operations.length ∧
        Contract 1 (Ledger.ofCalls 1 (operations.zip answers)) c ∧
        answers = [true, false, false, false] ∧
        c = ⟨1, [], false⟩ := by
  intro operations
  have made : create 1 = .ok { capacity := 1 } := rfl
  have run : (performAll operations).Yields { capacity := 1 } [true, false, false, false]
      ⟨1, [], false⟩ :=
    ⟨[.batchVerified 1 false], by rfl⟩
  obtain ⟨answers, c, same, lengths, contract⟩ := performAll_contract made operations
  obtain ⟨answers_eq, c_eq⟩ := same.unique run
  exact ⟨made, answers, c, same, lengths, contract, answers_eq, c_eq⟩

end SigValidation.BatchContext
