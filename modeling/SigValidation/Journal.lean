import SigValidation.Check
/-!
# The journal

What an operation tells the outside besides its answer: log events, increments of counters, and the
calls that reach scripted doubles. Each event is a value; its text is made in one place. Backends
and caches tell less: their notices become events where they are used.
-/
namespace SigValidation

open Text

inductive Severity where
  | error | warn | info | debug | trace
  deriving DecidableEq, Repr

inductive LogEvent where
  /-- A signature was queued, and so many are waiting now. -/
  | queued (pending : Nat)
  /-- The entries of a verified batch were put into the cache. -/
  | committed (count : Nat)
  /-- The secp256k1 context went through its batch. -/
  | batchVerified (size : Nat) (valid : Bool)
  /-- A verification failed, and so many signatures are left waiting. -/
  | batchFailed (pending : Nat)
  | backendUnusable
  | malformedKey (key : XOnlyKey)
  /-- The backend did not take a signature. -/
  | rejected (sighash : SigHash)
  | cacheHit (entry : Fingerprint)
  /-- An accumulator was dropped with signatures waiting. -/
  | discarded (count : Nat)
  /-- A pass begins to finish. -/
  | finishing (batching : Bool)
  | finished (pending : Nat)
  deriving DecidableEq

inductive Counter where
  | queued | committed | invalidBatch | rejected | cacheHit
  deriving DecidableEq, Repr

/-- A call that reaches a scripted backend or a recording cache. -/
inductive Call where
  | create (capacity : Nat)
  | isUsable
  | parse (key : XOnlyKey)
  | add (signature : Bytes) (sighash : SigHash) (key : XOnlyKey)
  | verify
  | get (entry : Fingerprint) (erase : Bool)
  | set (entry : Fingerprint)
  deriving DecidableEq

inductive Event where
  | log (event : LogEvent)
  | count (counter : Counter) (increment : Nat)
  | call (call : Call)
  deriving DecidableEq

/-- What a backend or a cache can tell by itself. It has no part in the counters. -/
inductive Notice where
  | called (call : Call)
  /-- A batch of so many signatures was gone through. -/
  | batchVerified (size : Nat) (valid : Bool)
  deriving DecidableEq

def Notice.toEvent : Notice → Event
  | called c => .call c
  | batchVerified size valid => .log (.batchVerified size valid)

def truthText (b : Bool) : String := if b then "true" else "false"

def Severity.label : Severity → String
  | error => "ERROR"
  | warn => "WARN"
  | info => "INFO"
  | debug => "DEBUG"
  | trace => "TRACE"

/-- The severity of a log event; the start of a pass's end is a span and has none. -/
def LogEvent.severity? : LogEvent → Option Severity
  | queued _ | batchVerified .. | malformedKey _ | rejected _ | cacheHit _ => some .trace
  | committed _ | batchFailed _ | discarded _ | finished _ => some .debug
  | backendUnusable => some .error
  | finishing _ => none

def LogEvent.message : LogEvent → String
  | queued _ => "queued schnorr signature"
  | committed _ => "committed verified schnorr signatures to the cache"
  | batchVerified .. => "verified secp256k1 schnorr batch"
  | batchFailed _ => "schnorr batch verification failed"
  | backendUnusable => "schnorr batch verifier backend is unusable"
  | malformedKey _ => "rejected malformed x-only public key"
  | rejected _ => "schnorr batch backend rejected signature"
  | cacheHit _ => "schnorr signature found in cache"
  | discarded _ => "dropped schnorr batch verifier with unverified signatures"
  | finishing _ => "finish"
  | finished _ => "finished signature validation pass"

def LogEvent.fields : LogEvent → List (String × DebugTree)
  | queued n | batchFailed n | finished n => [("pending", .number n)]
  | committed n => [("committed", .number n)]
  | batchVerified size valid => [("batch_size", .number size), ("valid", .truth valid)]
  | backendUnusable => []
  | malformedKey key => [("pubkey", key.debugTree)]
  | rejected sighash => [("sighash", sighash.debugTree)]
  | cacheHit entry => [("entry", entry.debugTree)]
  | discarded n => [("discarded", .number n)]
  | finishing batching => [("batching", .truth batching)]

/-- A log event on one line: severity, message, fields. -/
def LogEvent.line (e : LogEvent) : String :=
  let label := (e.severity?.map Severity.label).getD "SPAN"
  String.intercalate " " (label :: e.message :: e.fields.map fun (name, value) =>
    name ++ "=" ++ value.plain false)

def Counter.name : Counter → String
  | queued => "signatures.schnorr.batch.queued"
  | committed => "signatures.schnorr.batch.committed"
  | invalidBatch => "signatures.schnorr.batch.invalid_batch"
  | rejected => "signatures.schnorr.batch.rejected"
  | cacheHit => "signatures.schnorr.cache.hit"

/-- A call on one line: its name and its arguments. -/
def Call.line : Call → String
  | create capacity => "create " ++ decimal capacity
  | isUsable => "is_usable"
  | parse key => "parse " ++ key.bytes.toHex
  | add signature sighash key =>
    "add " ++ Bytes.toHex signature ++ " " ++ sighash.bytes.toHex ++ " " ++ key.bytes.toHex
  | verify => "verify"
  | get entry erase => "get " ++ entry.digest.toHex ++ " " ++ truthText erase
  | set entry => "set " ++ entry.digest.toHex

namespace Event

def logs (events : List Event) : List LogEvent :=
  events.filterMap fun | log e => some e | _ => none

def calls (events : List Event) : List Call :=
  events.filterMap fun | call c => some c | _ => none

/-- What some events add to a counter. -/
def total (counter : Counter) (events : List Event) : Nat :=
  (events.map fun | count c n => if c = counter then n else 0 | _ => 0).foldr (· + ·) 0

end Event

def Counter.all : List Counter := [queued, committed, invalidBatch, rejected, cacheHit]

end SigValidation
