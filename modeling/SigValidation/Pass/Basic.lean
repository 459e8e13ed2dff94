import SigValidation.Checker
import SigValidation.Config.Toml
/-!
# Signature validation passes

A pass answers the checks of one unit of work, such as a block. With batching, its answers to
Schnorr checks count only once the pass has finished without an error; after an error every answer
has to be asked for again, without batching. The error does not say which signature is invalid, only
how many were waiting. Dropping a pass loses what is still waiting.
-/
namespace SigValidation

open Text

inductive PassError where
  /-- At least one Schnorr signature accepted during the pass is invalid. -/
  | invalidBatch (pending : Nat)
  deriving DecidableEq, Repr

namespace PassError

def message : PassError → String
  | invalidBatch pending =>
    "schnorr batch verification failed with " ++ decimal pending ++ " signatures pending"

def debugTree : PassError → DebugTree
  | invalidBatch pending => .record "InvalidBatch" [("pending", .number pending)]

end PassError

/-- A new cache of the configured size. -/
def Config.signatureCache (c : Config) : BoundedCache := { maxEntries := c.cacheLimit.toNat }

/-- A pass over a cache; without an accumulator it does not batch. -/
structure Pass (κ : Type) where
  batch : Option (Accumulator BatchContext)
  cache : κ

namespace Pass

variable {κ : Type}

def newAccumulator : Accumulator BatchContext where
  capacity := maxBatchSize
  capacity_pos := by decide
  context := { capacity := maxBatchSize }

def start (config : Config) (cache : κ) : Pass κ :=
  ⟨if config.batchSchnorr then some newAccumulator else none, cache⟩

def isBatching (p : Pass κ) : Bool := p.batch.isSome

def pendingCount (p : Pass κ) : Except Panic Nat :=
  match p.batch with
  | some accumulator => accumulator.pendingCount
  | none => .ok 0

def onCache {α : Type} (r : Routine Notice κ α) : Routine Event (Pass κ) α :=
  Routine.onPart cache (fun p cache => { p with cache }) Notice.toEvent r

def onWorkspace {α : Type} (accumulator : Accumulator BatchContext)
    (r : Routine Event (Workspace BatchContext κ) α) : Routine Event (Pass κ) α :=
  Routine.onPart (fun p => ⟨accumulator, p.cache⟩) (fun _ w => ⟨some w.accumulator, w.cache⟩) id r

/-- Answers one check through a checker of the pass. -/
def check [SignatureCache κ] (base : BaseChecker) (store : Bool) (question : Check) :
    Routine Event (Pass κ) Bool := do
  match (← Routine.state).batch with
  | some accumulator => onWorkspace accumulator (BatchingChecker.check ⟨⟨base, store⟩⟩ question)
  | none => onCache (CachingChecker.check ⟨base, store⟩ question)

/-- Verifies what is still waiting, while the pass still stands. -/
def settle [SignatureCache κ] : Routine Event (Pass κ) (Except PassError Unit) := do
  let pass ← Routine.state
  Routine.emit (.log (.finishing pass.isBatching))
  match pass.batch with
  | none => return .ok ()
  | some accumulator =>
    match accumulator.pendingCount with
    | .error cause => Routine.panic cause
    | .ok pending =>
      if ← onWorkspace accumulator Accumulator.verify then
        Routine.emit (.log (.finished pending))
        return .ok ()
      else return .error (.invalidBatch pending)

/-- What is written when a pass is dropped. -/
def dropped (p : Pass κ) : List Event :=
  match p.batch with
  | some accumulator => accumulator.dropped
  | none => []

/-- Drops a pass, and with it what is still waiting. The cache is what is left of it. -/
def drop (p : Pass κ) : Reply Event κ Unit := ⟨.ok (), p.cache, p.dropped⟩

/-- Ends a pass: verifies what is waiting, then drops the pass. -/
def finish [SignatureCache κ] (p : Pass κ) : Reply Event κ (Except PassError Unit) :=
  let reply := settle.run p
  let last := reply.state.drop
  ⟨reply.outcome, last.state, reply.events ++ last.events⟩

def debugTree [CacheView κ] (p : Pass κ) : DebugTree :=
  .record "SignatureValidationPass"
    [("cache", CacheView.debugTree p.cache),
      ("batch",
        match p.batch with
        | some accumulator => .tuple "Some" [accumulator.debugTree]
        | none => .text "None")]

def checkerTree [CacheView κ] (p : Pass κ) (base : BaseChecker) (store : Bool) : DebugTree :=
  match p.batch with
  | some accumulator =>
    .tuple "Batching" [BatchingChecker.debugTree ⟨accumulator, p.cache⟩ ⟨⟨base, store⟩⟩]
  | none => .tuple "Caching" [CachingChecker.debugTree p.cache ⟨base, store⟩]

end Pass

end SigValidation
