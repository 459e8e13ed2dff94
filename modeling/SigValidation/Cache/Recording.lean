import SigValidation.Cache.Bounded
import SigValidation.Backend.Scripted
/-!
# The recording cache

A double for a cache. It has no limit, keeps its entries in the order they came, each once, and
records every call. A script may tell it to leave an entry out or to panic.
-/
namespace SigValidation

open Text

structure RecordingCache where
  entries : List Fingerprint := []
  setScript : Script := []

namespace RecordingCache

def get (entry : Fingerprint) (erase : Bool) : Routine Notice RecordingCache Bool := do
  Routine.emit (.called (.get entry erase))
  let cache ← Routine.state
  if entry ∈ cache.entries then
    if erase then Routine.modify fun cache => { cache with entries := cache.entries.erase entry }
    return true
  else return false

def nextAnswer : Routine Notice RecordingCache Bool := fun cache =>
  ⟨cache.setScript.next "set", { cache with setScript := cache.setScript.tail }, []⟩

def set (entry : Fingerprint) : Routine Notice RecordingCache Unit := do
  Routine.emit (.called (.set entry))
  if ← nextAnswer then
    Routine.modify fun cache =>
      if entry ∈ cache.entries then cache else { cache with entries := cache.entries ++ [entry] }

instance : SignatureCache RecordingCache := ⟨get, set⟩

instance : CacheView RecordingCache where
  entries := entries
  debugTree cache :=
    .tuple "RecordingCache"
      [.partialRecord "Mutex" [("data", .list (entryTrees cache.entries)),
        ("poisoned", .truth false)]]

end RecordingCache

end SigValidation
