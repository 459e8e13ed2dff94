import SigValidation.Proofs.Backend.Context
/-!
# The batches of a context

Calls and their answers alone tell which signatures a context should hold. A `Ledger` is kept from
them: the current batch are the signatures taken since the last verification, be it one that was
asked for or one that a well-formed signature set off by meeting a full batch. `performed` says once
what a call can come to. Every run of calls answers (`performAll_keeps`), and the context that it
leaves is what its ledger says (`Posted`).
-/
namespace SigValidation.BatchContext

open Curve

inductive Operation where
  | add (signature : Bytes) (sighash : SigHash) (key : AffinePoint)
  | verify

namespace Operation

def perform : Operation → Routine Notice BatchContext Bool
  | add signature sighash key => BatchBackend.add signature sighash key
  | verify => BatchBackend.verify

/-- The item that the call brings, if its bytes are a signature's. -/
def item? : Operation → Option BatchItem
  | add signature sighash key =>
      (Schnorr.Signature.ofBytes? signature).map fun parsed => ⟨parsed, sighash, key⟩
  | verify => none

/-- The call has the batch verified: it asks for it, or it brings a well-formed signature to a full
batch. -/
def verifies (capacity : Nat) (batch : List BatchItem) : Operation → Bool
  | add signature _ _ => signature.length = Schnorr.signatureSize && batch.length = capacity
  | verify => true

/-- A call that brings so many bytes, no valid signature among them. -/
def forged (length : Nat) : Operation :=
  .add (List.replicate length 0xff) ⟨Bytes32.replicate 0⟩
    ⟨1, Coordinate.ofNat 0x4218f20ae6c646b363db68605822fb14264ca8d2587fdd6fbc750d587e76a7ee,
      by decide +kernel⟩

end Operation

def performAll : List Operation → Routine Notice BatchContext (List Bool)
  | [] => return []
  | operation :: rest => do
    let answer ← operation.perform
    let answers ← performAll rest
    return answer :: answers

/-- The batches of a context. -/
structure Ledger where
  /-- The signatures taken since the last verification, in order. -/
  current : List BatchItem := []
  /-- The batches that verifications went through, in order. -/
  verified : List (List BatchItem) := []

namespace Ledger

def close (l : Ledger) : Ledger := { current := [], verified := l.verified ++ [l.current] }

/-- Notes a call and its answer. -/
def note (capacity : Nat) (l : Ledger) (call : Operation × Bool) : Ledger :=
  let l := if call.1.verifies capacity l.current then l.close else l
  if call.2 then { l with current := l.current ++ call.1.item?.toList } else l

def ofCalls (capacity : Nat) (said : List (Operation × Bool)) : Ledger :=
  said.foldl (note capacity) {}

/-- Every batch gone through was valid. -/
def isSound (l : Ledger) : Bool := l.verified.all fun batch => batch.all BatchItem.isValid

theorem ofCalls_append (capacity : Nat) (said : List (Operation × Bool)) (call : Operation × Bool) :
    ofCalls capacity (said ++ [call]) = (ofCalls capacity said).note capacity call := by
  rw [ofCalls, List.foldl_append]
  rfl

theorem isSound_close (l : Ledger) :
    l.close.isSound = (l.isSound && l.current.all BatchItem.isValid) := by
  simp [isSound, close]

/-- A ledger is unsound exactly if a batch that was verified held an invalid item. -/
theorem isSound_eq_false_iff {l : Ledger} :
    l.isSound = false ↔ ∃ batch ∈ l.verified, ∃ item ∈ batch, item.isValid = false := by
  simp [isSound]

section Note

variable {capacity : Nat} {l : Ledger} {operation : Operation}

theorem note_refused (idle : operation.verifies capacity l.current = false) :
    l.note capacity (operation, false) = l := by
  simp [note, idle]

/-- A verification closes the batch, whatever it finds. -/
theorem note_closed (closes : operation.verifies capacity l.current = true) :
    l.note capacity (operation, false) = l.close := by
  simp [note, closes]

/-- Under an unusable context nothing is taken, so that all a verification can close is an empty
batch. -/
theorem note_refused_of_empty (capacity : Nat) (operation : Operation) (empty : l.current = []) :
    (l.note capacity (operation, false)).current =
      [] ∧ (l.note capacity (operation, false)).isSound = l.isSound := by
  cases closes : operation.verifies capacity l.current with
  | false =>
    rw [note_refused closes]
    exact ⟨empty, rfl⟩
  | true =>
    rw [note_closed closes, isSound_close, empty]
    exact ⟨rfl, Bool.and_true _⟩

theorem note_taken {item : BatchItem} (read : operation.item? = some item)
    (idle : operation.verifies capacity l.current = false) :
    l.note capacity (operation, true) = { l with current := l.current ++ [item] } := by
  simp [note, idle, read]

/-- A signature taken by a full batch closes this batch and begins the next. -/
theorem note_flushed {item : BatchItem} (read : operation.item? = some item)
    (closes : operation.verifies capacity l.current = true) :
    l.note capacity (operation, true) = { l.close with current := [item] } := by
  simp [note, closes, read, close]

theorem note_verified : l.note capacity (.verify, true) = l.close := by
  simp [note, Operation.verifies, Operation.item?]

end Note

end Ledger

namespace Operation

variable {operation : Operation} {item : BatchItem}

theorem length_of_item? {signature : Bytes} {sighash : SigHash} {key : AffinePoint}
    (read : (add signature sighash key).item? = some item) :
    signature.length = Schnorr.signatureSize := by
  obtain ⟨parsed, parses, _⟩ := Option.map_eq_some_iff.mp read
  unfold Schnorr.Signature.ofBytes? at parses
  split at parses
  · assumption
  · cases parses

theorem item?_of_length {signature : Bytes} (sighash : SigHash) (key : AffinePoint)
    (wellFormed : signature.length = Schnorr.signatureSize) :
    (add signature sighash key).item? = some ⟨⟨signature, wellFormed⟩, sighash, key⟩ := by
  simp [item?, Schnorr.Signature.ofBytes?, wellFormed]

theorem length_ne_of_ofBytes? {signature : Bytes}
    (h : Schnorr.Signature.ofBytes? signature = none) :
    signature.length ≠ Schnorr.signatureSize := by
  intro wellFormed
  simp [Schnorr.Signature.ofBytes?, wellFormed] at h

/-- A call that brings an item has the batch verified if and only if it is full. -/
theorem verifies_of_item? (read : operation.item? = some item) (capacity : Nat)
    (batch : List BatchItem) :
    operation.verifies capacity batch = decide (batch.length = capacity) := by
  cases operation with
  | add signature sighash key => simp [verifies, length_of_item? read]
  | verify => cases read

end Operation

/-- All that a call can come to: its answer, and the context that it leaves. -/
inductive Performed (c : BatchContext) : Operation → Bool → BatchContext → Prop where
  | unusable {operation : Operation} (unusable : c.usable = false) : Performed c operation false c
  | malformed {signature : Bytes} {sighash : SigHash} {key : AffinePoint}
      (malformed : signature.length ≠ Schnorr.signatureSize) : Performed c
        (.add signature sighash key) false c
  | taken {operation : Operation} {item : BatchItem} (usable : c.usable = true)
      (read : operation.item? = some item)
      (room : c.items.length ≠ c.capacity) : Performed c operation true
        { c with items := c.items ++ [item] }
  /-- The full batch is valid, and the item is alone in the next one. -/
  | flushed {operation : Operation} {item : BatchItem} (usable : c.usable = true)
      (read : operation.item? = some item)
      (full : c.items.length = c.capacity) (valid : c.items.all BatchItem.isValid = true) :
      Performed c operation true { c with items := [item], usable := true }
  | verified (usable : c.usable = true) (valid : c.items.all BatchItem.isValid = true) :
      Performed c .verify true { c with items := [], usable := true }
  /-- A verification, asked for or not, meets an invalid signature. -/
  | failed {operation : Operation} (usable : c.usable = true)
      (verifies : operation.verifies c.capacity c.items = true)
      (invalid : c.items.all BatchItem.isValid = false) :
      Performed c operation false { c with items := [], usable := false }

/-- An unusable context holds nothing, also after one more call. -/
theorem Performed.drained {c after : BatchContext} {operation : Operation} {answer : Bool}
    (outcome : Performed c operation answer after) (drained : c.usable = false → c.items = []) :
    after.usable = false → after.items = [] := by
  intro unusable
  cases outcome with
  | unusable => exact drained unusable
  | malformed => exact drained unusable
  | taken usable => exact absurd (usable.symm.trans unusable) Bool.noConfusion
  | flushed => cases unusable
  | verified => cases unusable
  | failed => rfl

/-- A call under a usable context. -/
private theorem performed_usable (operation : Operation) {c : BatchContext}
    (usable : c.usable = true) :
    ∃ answer after, operation.perform.Yields c answer after ∧
      Performed c operation answer after := by
  cases operation with
  | verify =>
    have step := yields_verify usable
    cases valid : c.items.all BatchItem.isValid with
    | false =>
      rw [valid] at step
      exact ⟨_, _, step, .failed usable rfl valid⟩
    | true =>
      rw [valid] at step
      exact ⟨_, _, step, .verified usable valid⟩
  | add signature sighash key =>
    cases parses : Schnorr.Signature.ofBytes? signature with
    | none =>
      exact ⟨_, _, yields_add_malformed sighash key parses,
        .malformed (Operation.length_ne_of_ofBytes? parses)⟩
    | some parsed =>
      have read : (Operation.add signature sighash key).item? = some ⟨parsed, sighash, key⟩ := by
        rw [Operation.item?, parses]
        rfl
      by_cases full : c.items.length = c.capacity
      · cases valid : c.items.all BatchItem.isValid with
        | false =>
          have closes :
              (Operation.add signature sighash key).verifies c.capacity c.items = true := by
            rw [Operation.verifies_of_item? read, decide_eq_true full]
          exact ⟨_, _, yields_add_full_invalid sighash key usable parses full valid,
            .failed usable closes valid⟩
        | true =>
          exact ⟨_, _, yields_add_full_valid sighash key usable parses full valid,
            .flushed usable read full valid⟩
      · exact ⟨_, _, yields_add_room sighash key usable parses full, .taken usable read full⟩

/-- An unusable context answers no and stays as it is. -/
theorem yields_perform_unusable (operation : Operation) {c : BatchContext}
    (unusable : c.usable = false) : operation.perform.Yields c false c := by
  cases operation with
  | add signature sighash key => exact yields_add_unusable sighash key signature unusable
  | verify => exact yields_verify_unusable unusable

/-- No call panics, and every call comes to one of these. -/
theorem performed (operation : Operation) (c : BatchContext) :
    ∃ answer after, operation.perform.Yields c answer after ∧
      Performed c operation answer after := by
  cases usable : c.usable with
  | false => exact ⟨false, c, yields_perform_unusable operation usable, .unusable usable⟩
  | true => exact performed_usable operation usable

theorem eq_of_create {capacity : Nat} {c : BatchContext} (made : create capacity = .ok c) :
    c = { capacity } := by
  unfold create at made
  split at made
  · exact (Except.ok.inj made).symm
  · cases made

/-- Every run of calls answers, and what each call that answers keeps, the run keeps. -/
theorem performAll_keeps {Keeps : List (Operation × Bool) → BatchContext → Prop}
    (operations : List Operation)
    (step : ∀ {said c operation answer after}, Keeps said c → Performed c operation answer after →
      Keeps (said ++ [(operation, answer)]) after)
    {said : List (Operation × Bool)} {c : BatchContext} (h : Keeps said c) :
    ∃ answers after,
      (performAll operations).Yields c answers after ∧ answers.length = operations.length ∧
      Keeps (said ++ operations.zip answers) after := by
  induction operations generalizing said c with
  | nil =>
    refine ⟨[], c, Routine.yields_pure _ c, rfl, ?_⟩
    rw [List.zip_nil_left, List.append_nil]
    exact h
  | cons operation rest ih =>
    obtain ⟨answer, between, first, outcome⟩ := performed operation c
    obtain ⟨answers, after, later, lengths, kept⟩ := ih (step h outcome)
    refine ⟨answer :: answers, after, first.bind (later.bind (Routine.yields_pure _ _)),
      congrArg Nat.succ lengths, ?_⟩
    rw [List.append_assoc] at kept
    exact kept

/-- The context is what its ledger says. -/
structure Posted (capacity : Nat) (said : List (Operation × Bool)) (c : BatchContext) : Prop where
  same_capacity : c.capacity = capacity
  items_eq : c.items = (Ledger.ofCalls capacity said).current
  usable_eq : c.usable = (Ledger.ofCalls capacity said).isSound
  drained : c.usable = false → c.items = []

namespace Posted

variable {capacity : Nat} {said : List (Operation × Bool)} {c after : BatchContext}
  {operation : Operation} {answer : Bool}

/-- A new context is what the empty ledger says. -/
theorem fresh (capacity : Nat) : Posted capacity [] { capacity } where
  same_capacity := rfl
  items_eq := rfl
  usable_eq := rfl
  drained unusable := by cases unusable

/-- Noting a call keeps the ledger in step with what the call comes to. -/
private theorem noted (h : Posted capacity said c) (outcome : Performed c operation answer after) :
    after.items = ((Ledger.ofCalls capacity said).note capacity (operation, answer)).current ∧
      after.usable =
        ((Ledger.ofCalls capacity said).note capacity (operation, answer)).isSound := by
  have items_eq := h.items_eq
  have usable_eq := h.usable_eq
  have same_capacity := h.same_capacity
  generalize Ledger.ofCalls capacity said = l at *
  subst same_capacity
  cases outcome with
  | unusable unusable =>
    have empty := h.drained unusable
    obtain ⟨current, isSound⟩ :=
      Ledger.note_refused_of_empty c.capacity operation (items_eq.symm.trans empty)
    rw [current, isSound]
    exact ⟨empty, usable_eq⟩
  | malformed malformed =>
    rw [Ledger.note_refused (by simp [Operation.verifies, malformed])]
    exact ⟨items_eq, usable_eq⟩
  | taken usable read room =>
    have idle : operation.verifies c.capacity l.current = false := by
      rw [Operation.verifies_of_item? read, ← items_eq, decide_eq_false room]
    rw [Ledger.note_taken read idle, ← items_eq]
    exact ⟨rfl, usable_eq⟩
  | flushed usable read full valid =>
    have closes : operation.verifies c.capacity l.current = true := by
      rw [Operation.verifies_of_item? read, ← items_eq, decide_eq_true full]
    have sound : l.close.isSound = true := by
      rw [Ledger.isSound_close, ← items_eq, ← usable_eq, usable, valid]; rfl
    rw [Ledger.note_flushed read closes]
    exact ⟨rfl, sound.symm⟩
  | verified usable valid =>
    rw [Ledger.note_verified, Ledger.isSound_close, ← items_eq, ← usable_eq, usable, valid]
    exact ⟨rfl, rfl⟩
  | failed usable closes invalid =>
    rw [items_eq] at closes
    rw [Ledger.note_closed closes, Ledger.isSound_close, ← items_eq, invalid]
    exact ⟨rfl, (Bool.and_false _).symm⟩

/-- One more call is posted. -/
theorem step (h : Posted capacity said c) (outcome : Performed c operation answer after) :
    Posted capacity (said ++ [(operation, answer)]) after where
  same_capacity := by cases outcome <;> exact h.same_capacity
  items_eq := by
    rw [Ledger.ofCalls_append]
    exact (h.noted outcome).1
  usable_eq := by
    rw [Ledger.ofCalls_append]
    exact (h.noted outcome).2
  drained := outcome.drained h.drained

end Posted

end SigValidation.BatchContext
