import SigValidation.Proofs.Backend.Ledger
/-!
# How many signatures a context holds

A context compares the length of its batch with its capacity for equality, just before it takes one
more signature. From an empty batch the length never steps over a positive capacity. A capacity of
zero is stepped over by the first signature: the batch was full while it was empty, is never full
again, and holds all that is taken until `verify` is called.
-/
namespace SigValidation.BatchContext

/-- The number of signatures taken since `verify` was called, once one more call was answered. -/
def tally (taken : Nat) : Operation × Bool → Nat
  | (.add .., true) => taken + 1
  | (.add .., false) => taken
  | (.verify, _) => 0

/-- How many signatures were taken since `verify` was last called. -/
def takenSince (said : List (Operation × Bool)) : Nat := said.foldl tally 0

/-- The count is kept call by call. -/
theorem takenSince_append (said : List (Operation × Bool)) (call : Operation × Bool) :
    takenSince (said ++ [call]) = tally (takenSince said) call := by
  rw [takenSince, List.foldl_append]
  rfl

theorem tally_of_item? {operation : Operation} {item : BatchItem}
    (read : operation.item? = some item) (taken : Nat) :
    tally taken (operation, true) = taken + 1 := by
  cases operation with
  | add => rfl
  | verify => cases read

/-- What bounds the number of signatures held, for a positive capacity and for zero. -/
structure Bounded (capacity : Nat) (said : List (Operation × Bool)) (c : BatchContext) : Prop
    extends Posted capacity said c where
  length_le : 0 < capacity → c.items.length ≤ capacity
  length_eq : capacity = 0 → c.items.length = takenSince said

namespace Bounded

variable {capacity : Nat} {said : List (Operation × Bool)} {c after : BatchContext}
  {operation : Operation} {answer : Bool}

theorem fresh (capacity : Nat) : Bounded capacity [] { capacity } where
  toPosted := .fresh capacity
  length_le _ := Nat.zero_le capacity
  length_eq _ := rfl

/-- In a context of capacity zero no signature sets off a verification that fails, for an empty
batch is valid. -/
theorem step (h : Bounded capacity said c) (outcome : Performed c operation answer after) :
    Bounded capacity (said ++ [(operation, answer)]) after where
  toPosted := h.toPosted.step outcome
  length_le positive := by
    have within := h.length_le positive
    cases outcome with
    | unusable => exact within
    | malformed => exact within
    | taken usable read room =>
      rw [h.same_capacity] at room
      rw [List.length_append, List.length_singleton]
      omega
    | flushed => exact positive
    | verified => exact Nat.zero_le capacity
    | failed => exact Nat.zero_le capacity
  length_eq zero := by
    have length_eq := h.length_eq zero
    rw [takenSince_append]
    cases outcome with
    | unusable unusable =>
      rw [h.drained unusable] at length_eq ⊢
      cases operation with
      | add => exact length_eq
      | verify => rfl
    | malformed => exact length_eq
    | taken usable read room =>
      rw [tally_of_item? read, ← length_eq]
      exact List.length_append
    | flushed usable read full valid =>
      rw [h.same_capacity, zero] at full
      rw [tally_of_item? read, ← length_eq, full]
      rfl
    | verified => rfl
    | failed usable closes invalid =>
      cases operation with
      | verify => rfl
      | add signature sighash key =>
        have full : c.items.length = c.capacity := by
          rw [Operation.verifies, Bool.and_eq_true, decide_eq_true_iff,
            decide_eq_true_iff] at closes
          exact closes.2
        rw [h.same_capacity, zero] at full
        rw [List.eq_nil_of_length_eq_zero full] at invalid
        cases invalid

end Bounded

/-- For every sequence of calls on a new context: within a positive capacity the context holds no
more signatures than that, and at capacity zero it holds every signature that it took since `verify`
was last called. -/
theorem performAll_bounded {capacity : Nat} {start : BatchContext}
    (made : create capacity = .ok start) (operations : List Operation) :
    ∃ answers c,
      (performAll operations).Yields start answers c ∧ answers.length = operations.length ∧
      c.capacity = capacity ∧ (0 < capacity → c.items.length ≤ capacity) ∧
      (capacity = 0 → c.items.length = takenSince (operations.zip answers)) := by
  obtain ⟨answers, c, run, lengths, bounded⟩ :=
    performAll_keeps operations Bounded.step (Bounded.fresh capacity)
  rw [eq_of_create made]
  exact ⟨answers, c, run, lengths, bounded.same_capacity, bounded.length_le, bounded.length_eq⟩

/-- A context of capacity zero holds two signatures, and would take a third. -/
theorem performAll_bounded_zero :
    let operations := [Operation.forged 64, .forged 64]
    create 0 = .ok { capacity := 0 } ∧
      ∃ answers c, (performAll operations).Yields { capacity := 0 } answers c ∧
        answers.length = operations.length ∧
        c.capacity = 0 ∧ c.items.length = takenSince (operations.zip answers) ∧
        answers = [true, true] ∧
        ∃ after, (Operation.forged 64).perform.Yields c true after := by
  intro operations
  have made : create 0 = .ok { capacity := 0 } := rfl
  obtain ⟨answers, c, run, lengths, same_capacity, _, length_eq⟩ :=
    performAll_bounded made operations
  have taken : (performAll operations).Yields { capacity := 0 } [true, true] _ := ⟨_, rfl⟩
  obtain ⟨answers_eq, rfl⟩ := run.unique taken
  exact ⟨made, answers, _, run, lengths, same_capacity, length_eq rfl, answers_eq, _, _, rfl⟩

/-- A context that is to hold no signature at all takes one and holds it. -/
theorem exceeds_capacity_zero :
    ∃ start c, create 0 = .ok start ∧
      (performAll [.forged 64]).Yields start [true] c ∧ c.capacity < c.items.length :=
  ⟨{ capacity := 0 }, _, rfl, ⟨_, rfl⟩, Nat.zero_lt_one⟩

end SigValidation.BatchContext
