import SigValidation.Backend.Context
/-!
# The scripted backend

A scripted double answers from a list made beforehand: yes, no, or a panic. When the list is used up
it says yes. The double for a backend keeps no batch: it records every call and answers from its
scripts.
-/
namespace SigValidation

inductive ScriptedAnswer where
  | answer (b : Bool)
  | panic
  deriving DecidableEq, Repr

/-- The answers still to be given to one kind of call. -/
abbrev Script := List ScriptedAnswer

namespace Script

def next (name : String) : Script → Except Panic Bool
  | [] => .ok true
  | .answer b :: _ => .ok b
  | .panic :: _ => .error (.scripted name)

end Script

structure ScriptedBackend where
  isUsableScript : Script := []
  parseScript : Script := []
  addScript : Script := []
  verifyScript : Script := []

namespace ScriptedBackend

def isUsable : Routine Notice ScriptedBackend Bool := do
  Routine.emit (.called .isUsable)
  fun b =>
    ⟨b.isUsableScript.next "is_usable", { b with isUsableScript := b.isUsableScript.tail }, []⟩

/-- The key itself, unless the script says no. -/
def parse (key : XOnlyKey) : Routine Notice ScriptedBackend (Option XOnlyKey) := do
  Routine.emit (.called (.parse key))
  let parses ← fun b =>
    ⟨b.parseScript.next "parse", { b with parseScript := b.parseScript.tail }, []⟩
  return if parses then some key else none

def add (signature : Bytes) (sighash : SigHash) (key : XOnlyKey) :
    Routine Notice ScriptedBackend Bool := do
  Routine.emit (.called (.add signature sighash key))
  fun b => ⟨b.addScript.next "add", { b with addScript := b.addScript.tail }, []⟩

def verify : Routine Notice ScriptedBackend Bool := do
  Routine.emit (.called .verify)
  fun b => ⟨b.verifyScript.next "verify", { b with verifyScript := b.verifyScript.tail }, []⟩

instance : BatchBackend ScriptedBackend := ⟨XOnlyKey, isUsable, parse, add, verify⟩

def create (capacity : Nat) : Routine Notice ScriptedBackend Unit :=
  Routine.emit (.called (.create capacity))

end ScriptedBackend

end SigValidation
