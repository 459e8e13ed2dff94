import SigValidation.Journal
/-!
# Batch backends

A backend takes signatures into a batch and verifies them together. A batch that is full is verified
and cleared when one more signature is added. Once a verification has failed the backend stays
unusable.

In the secp256k1 context the signatures of a batch wait in the order they came and are verified one
by one in a single call. A signature of a wrong length is refused before anything else happens, so
that it never makes a full batch be verified.
-/
namespace SigValidation

open Curve Text

/-- The operations of a backend whose context is a state of type `σ`. -/
class BatchBackend (σ : Type) where
  /-- A public key as the backend wants it. -/
  Key : Type
  isUsable : Routine Notice σ Bool
  /-- The key, if the bytes are one. -/
  parse : XOnlyKey → Routine Notice σ (Option Key)
  /-- Takes a signature into the batch, if it can. -/
  add : Bytes → SigHash → Key → Routine Notice σ Bool
  /-- Verifies and clears the batch. -/
  verify : Routine Notice σ Bool

/-- The most signatures for which verifying them in one go is still faster than one by one. -/
def maxBatchSize : Nat := 106

/-- The most bytes that can be set aside for one batch. -/
def maxRoom : Nat := signedBound - 1

structure BatchItem where
  signature : Schnorr.Signature
  sighash : SigHash
  key : AffinePoint
  deriving DecidableEq

def BatchItem.isValid (item : BatchItem) : Bool :=
  Schnorr.isValid item.signature item.sighash.bytes item.key

structure BatchContext where
  capacity : Nat
  items : List BatchItem := []
  usable : Bool := true
  deriving DecidableEq

namespace BatchContext

/-- The bytes that a waiting signature takes: the signature, its signature hash and both coordinates
of the key. -/
def itemSize : Nat := 64 + 32 + 64

/-- A new context. Room for the batch is set aside at once. -/
def create (capacity : Nat) : Except Panic BatchContext :=
  if capacity * itemSize ≤ maxRoom then .ok { capacity } else .error .tooMuchRoom

def isUsable : Routine Notice BatchContext Bool := do return (← Routine.state).usable

def parse (key : XOnlyKey) : Routine Notice BatchContext (Option AffinePoint) :=
  pure (AffinePoint.ofXOnly? key.bytes)

/-- Whether every signature waiting is valid. The batch is cleared, and a batch with an invalid
signature makes the context unusable. -/
def verify : Routine Notice BatchContext Bool := do
  let context ← Routine.state
  if context.usable then
    let valid := context.items.all BatchItem.isValid
    Routine.modify fun context => { context with items := [], usable := valid }
    Routine.emit (.batchVerified context.items.length valid)
    return valid
  else return false

/-- Makes room for one more signature: a full batch is verified. -/
def makeRoom : Routine Notice BatchContext Bool := do
  let context ← Routine.state
  if context.items.length = context.capacity then verify else return true

def add (signature : Bytes) (sighash : SigHash) (key : AffinePoint) :
    Routine Notice BatchContext Bool := do
  let context ← Routine.state
  if context.usable then
    match Schnorr.Signature.ofBytes? signature with
    | some parsed =>
      if ← makeRoom then
        Routine.modify fun context =>
          { context with items := context.items ++ [⟨parsed, sighash, key⟩] }
        return true
      else return false
    | none => return false
  else return false

instance : BatchBackend BatchContext := ⟨AffinePoint, isUsable, parse, add, verify⟩

@[simp] theorem run_isUsable (c : BatchContext) : isUsable.run c = ⟨.ok c.usable, c, []⟩ := rfl

@[simp] theorem run_parse (key : XOnlyKey) (c : BatchContext) :
    (parse key).run c = ⟨.ok (AffinePoint.ofXOnly? key.bytes), c, []⟩ := rfl

/-- A verification clears the batch, and finds it valid exactly if every signature in it is. -/
theorem run_verify (c : BatchContext) :
    verify.run c =
      if c.usable then
        ⟨.ok (c.items.all BatchItem.isValid),
          { c with items := [], usable := c.items.all BatchItem.isValid },
          [.batchVerified c.items.length (c.items.all BatchItem.isValid)]⟩
      else ⟨.ok false, c, []⟩ := by
  unfold verify
  simp only [Routine.run_bind, Routine.run_state]
  split <;> simp_all [Routine.run_bind, Except.map]

theorem run_makeRoom (c : BatchContext) :
    makeRoom.run c = if c.items.length = c.capacity then verify.run c else ⟨.ok true, c, []⟩ := by
  unfold makeRoom
  simp only [Routine.run_bind, Routine.run_state]
  split <;> simp

/-- A signature of a wrong length, or under an unusable context, changes nothing; any other is
taken, unless it meets a full batch that is not valid. -/
theorem run_add (signature : Bytes) (sighash : SigHash) (key : AffinePoint) (c : BatchContext) :
    (add signature sighash key).run c =
      match c.usable, Schnorr.Signature.ofBytes? signature with
      | true, some parsed =>
        if c.items.length = c.capacity then
          if c.items.all BatchItem.isValid then
            ⟨.ok true, { c with items := [⟨parsed, sighash, key⟩], usable := true },
              [.batchVerified c.items.length true]⟩
          else ⟨.ok false, { c with items := [], usable := false },
            [.batchVerified c.items.length false]⟩
        else ⟨.ok true, { c with items := c.items ++ [⟨parsed, sighash, key⟩] }, []⟩
      | _, _ => ⟨.ok false, c, []⟩ := by
  unfold add
  simp only [Routine.run_bind, Routine.run_state]
  cases h : c.usable with
  | false => simp
  | true =>
    cases Schnorr.Signature.ofBytes? signature with
    | none => simp
    | some parsed =>
      by_cases full : c.items.length = c.capacity
      · cases valid : c.items.all BatchItem.isValid <;>
          simp [Routine.run_bind, run_makeRoom, run_verify, full, h, valid, Except.map]
      · simp [Routine.run_bind, run_makeRoom, full, h, Except.map]

def debugTree (context : BatchContext) : DebugTree :=
  .record "Secp256k1Batch"
    [("len", .number context.items.length), ("capacity", .number context.capacity),
      ("usable", .truth context.usable)]

end BatchContext

end SigValidation
