import SigValidation.Accumulator
import SigValidation.Amount
/-!
# Checkers

A checker answers the checks of one transaction input. The base checker asks the cryptography. The
caching checker asks a cache first and remembers what it finds valid. The batching checker asks the
cache first too, but queues the Schnorr signatures it misses: its yes then only says that the
signature is waiting.

A checker that does not store removes the entries it finds, for it asks about each of them for the
last time.
-/
namespace SigValidation

open Text

/-- The input whose signatures are checked. -/
structure BaseChecker where
  transaction : String
  input : Nat
  amount : Amount
  txData : TxData

structure CachingChecker where
  base : BaseChecker
  store : Bool

structure BatchingChecker where
  caching : CachingChecker

namespace BaseChecker

def check (_ : BaseChecker) (c : Check) : Bool := c.isValid

def spentAmount? (b : BaseChecker) : Option Amount := b.txData.spentAmount? b.input

def debugTree (b : BaseChecker) : DebugTree :=
  .record "TransactionSignatureChecker"
    [("transaction", .text (quote b.transaction)), ("input_index", .number b.input),
      ("amount", b.amount.debugTree), ("txdata", b.txData.debugTree)]

end BaseChecker

namespace CachingChecker

variable {κ : Type}

/-- Looks an entry up. It is removed unless the checker stores. -/
def lookup [SignatureCache κ] (c : CachingChecker) (entry : Fingerprint) : Routine Notice κ Bool :=
  SignatureCache.get entry (!c.store)

def check [SignatureCache κ] (c : CachingChecker) (question : Check) : Routine Notice κ Bool := do
  if ← c.lookup question.fingerprint then return true
  else
    let valid := c.base.check question
    if valid && c.store then SignatureCache.set question.fingerprint
    return valid

def debugTree [CacheView κ] (cache : κ) (c : CachingChecker) : DebugTree :=
  .partialRecord "CachingSignatureChecker"
    [("input_index", .number c.base.input), ("amount", c.base.amount.debugTree),
      ("store", .truth c.store), ("cache", CacheView.debugTree cache)]

end CachingChecker

namespace BatchingChecker

open Workspace

variable {σ κ : Type}

def check [BatchBackend σ] [SignatureCache κ] (b : BatchingChecker) :
    Check → Routine Event (Workspace σ κ) Bool
  | .ecdsa signature key sighash => onCache (b.caching.check (.ecdsa signature key sighash))
  | .schnorr signature key sighash => do
    let entry := (Check.schnorr signature key sighash).fingerprint
    if ← onCache (b.caching.lookup entry) then
      Routine.emit (.log (.cacheHit entry))
      Routine.emit (.count .cacheHit 1)
      return true
    else Accumulator.add signature key sighash entry

def debugTree [CacheView κ] (w : Workspace σ κ) (b : BatchingChecker) : DebugTree :=
  .record "BatchingCachingSignatureChecker"
    [("caching", b.caching.debugTree w.cache), ("batch", w.accumulator.debugTree)]

end BatchingChecker

end SigValidation
