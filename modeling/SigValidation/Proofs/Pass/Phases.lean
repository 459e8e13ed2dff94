import SigValidation.Pass.Basic
import SigValidation.Proofs.Cache.Contents
import SigValidation.Proofs.Check.Item
/-!
# The two phases of a check

Every checker first looks the fingerprint of a check up, and only if it is not held resolves the
check: by the cryptography or, for a Schnorr signature in a batching pass, by queueing it. Cache and
batch are locked apart, so other checks of the same pass can come between the phases. A check that
nothing interrupts is one phase after the other (`Pass.check_eq`).

Each worker of a crew has its own list of checks and makes them in order. A turn is one phase of one
check: the lookup, or the resolution of a check that was looked up in vain. A schedule says whose
turn it is, so that the schedules are the interleavings of the workers' phases.
-/
namespace SigValidation

variable {κ : Type}

/-- A check made through a checker. -/
structure Request where
  base : BaseChecker
  store : Bool
  question : Check

def Request.truth (r : Request) : Bool := r.base.check r.question

/-- A check of a valid signature through a checker that stores. -/
def Request.sample : Request := ⟨⟨"transaction", 0, ⟨0, Nat.zero_le _⟩, ⟨[]⟩⟩, true, .sample⟩

/-- The same of a signature that is not valid. -/
def Request.forged : Request := { Request.sample with question := .forged }

namespace CachingChecker

/-- Answers a check that is not in the cache. -/
def resolve [SignatureCache κ] (c : CachingChecker) (question : Check) : Routine Notice κ Bool := do
  let valid := c.base.check question
  if valid && c.store then SignatureCache.set question.fingerprint
  return valid

/-- The cache once a check was answered by the cryptography. -/
def keep (store : Bool) (question : Check) (cache : BoundedCache) : BoundedCache :=
  if question.isValid && store then cache.insert question.fingerprint else cache

variable (base : BaseChecker) (store : Bool) {question : Check} {cache : BoundedCache}

theorem yields_resolve (question : Check) (cache : BoundedCache) :
    (resolve ⟨base, store⟩ question).Yields cache question.isValid (keep store question cache) := by
  unfold resolve keep
  rw [BaseChecker.check]
  by_cases stored : (question.isValid && store) = true
  · rw [if_pos stored, if_pos stored]
    exact (BoundedCache.yields_insert _ cache).bind (Routine.yields_pure _ _)
  · rw [if_neg stored, if_neg stored]
    exact Routine.yields_pure _ cache

theorem yields_check_of_mem (held : question.fingerprint ∈ cache.entries) :
    (check ⟨base, store⟩ question).Yields cache true
      (cache.afterGet question.fingerprint (!store)) := by
  have found : (lookup ⟨base, store⟩ question.fingerprint).Yields cache _ _ :=
    BoundedCache.yields_get question.fingerprint (!store) cache
  rw [decide_eq_true held] at found
  exact found.bind (Routine.yields_pure true _)

theorem yields_check_of_not_mem (missed : question.fingerprint ∉ cache.entries) :
    (check ⟨base, store⟩ question).Yields cache question.isValid (keep store question cache) := by
  have looked : (lookup ⟨base, store⟩ question.fingerprint).Yields cache _ _ :=
    BoundedCache.yields_get question.fingerprint (!store) cache
  rw [decide_eq_false missed, BoundedCache.afterGet_of_not_mem missed] at looked
  exact looked.bind (yields_resolve base store question cache)

end CachingChecker

namespace Pass

/-- Only a batching pass writes down that it found a Schnorr signature. -/
def noteHit (p : Pass κ) (question : Check) : Routine Event (Pass κ) Unit := do
  if p.isBatching && question.isSchnorr then
    Routine.emit (.log (.cacheHit question.fingerprint))
    Routine.emit (.count .cacheHit 1)

def lookup [SignatureCache κ] (base : BaseChecker) (store : Bool) (question : Check) :
    Routine Event (Pass κ) Bool := do
  let pass ← Routine.state
  if ← onCache (CachingChecker.lookup ⟨base, store⟩ question.fingerprint) then
    pass.noteHit question
    return true
  else return false

/-- Answers a check whose fingerprint was not found. -/
def resolve [SignatureCache κ] (base : BaseChecker) (store : Bool) (question : Check) :
    Routine Event (Pass κ) Bool := do
  match (← Routine.state).batch, question with
  | some accumulator, .schnorr signature key sighash =>
    onWorkspace accumulator (Accumulator.add signature key sighash question.fingerprint)
  | _, _ => onCache (CachingChecker.resolve ⟨base, store⟩ question)

/-- A check is its two phases, to the last event and also where a call panics. The lookup panics,
misses or hits, and the phases differ with the kinds of pass and check. -/
theorem check_eq [SignatureCache κ] (base : BaseChecker) (store : Bool) (question : Check) :
    (check base store question : Routine Event (Pass κ) Bool) =
      (do if ← lookup base store question then return true else resolve base store question) := by
  funext p
  change (check base store question).run p = Routine.run _ p
  obtain ⟨batch, cache⟩ := p
  cases found : (CachingChecker.lookup ⟨base, store⟩ question.fingerprint).run cache with
  | mk outcome after events =>
    rcases outcome with cause | _ | _ <;> rcases batch with _ | accumulator <;> cases question <;>
      simp [check, lookup, resolve, noteHit, isBatching, onCache, onWorkspace,
        Workspace.onCache, Workspace.withCache, Routine.run_bind, found, CachingChecker.check,
          CachingChecker.resolve, Check.isSchnorr, BatchingChecker.check]

section Yields

variable [SignatureCache κ] {base : BaseChecker} {store answer : Bool} {question : Check}
  {pass between after : Pass κ}

theorem yields_check_of_found (found : (lookup base store question).Yields pass true after) :
    (check base store question).Yields pass true after := by
  rw [check_eq]
  exact found.bind (Routine.yields_pure true after)

/-- A check that is missed is answered by its second phase. -/
theorem yields_check_of_missed (missed : (lookup base store question).Yields pass false between)
    (resolved : (resolve base store question).Yields between answer after) :
    (check base store question).Yields pass answer after := by
  rw [check_eq]
  exact missed.bind resolved

end Yields

end Pass

structure Worker where
  todo : List Request
  /-- The check that was looked up in vain and is still to be resolved. -/
  missed : Option Request := none
  answers : List Bool := []

namespace Worker

/-- The worker once the lookup of its next check has answered. -/
def looked (found : Bool) (r : Request) (rest : List Request) (w : Worker) : Worker :=
  if found then { w with todo := rest, answers := w.answers ++ [true] }
  else { w with todo := rest, missed := some r }

/-- The worker once the check that it missed is resolved. -/
def resolved (answer : Bool) (w : Worker) : Worker :=
  { w with missed := none, answers := w.answers ++ [answer] }

def isDone (w : Worker) : Bool := w.todo.isEmpty && w.missed.isNone

end Worker

structure Crew (κ : Type) where
  pass : Pass κ
  workers : List Worker

namespace Crew

variable {κ α : Type}

/-- The crew at the start of a pass, with each worker's share of the checks. -/
def start (config : Config) (cache : κ) (shares : List (List Request)) : Crew κ :=
  ⟨Pass.start config cache, shares.map fun todo => { todo }⟩

def isDone (c : Crew κ) : Bool := c.workers.all Worker.isDone

def withPass (c : Crew κ) (pass : Pass κ) : Crew κ := { c with pass }

def withWorker (c : Crew κ) (i : Nat) (w : Worker) : Crew κ :=
  { c with workers := c.workers.set i w }

def onPass (r : Routine Event (Pass κ) α) : Routine Event (Crew κ) α :=
  Routine.onPart pass withPass id r

theorem yields_onPass {r : Routine Event (Pass κ) α} {c : Crew κ} {a : α} {pass : Pass κ}
    (h : r.Yields c.pass a pass) : (onPass r).Yields c a (c.withPass pass) :=
  Routine.Yields.onPart h

/-- One phase of the worker's work, if it has any left. -/
def turn [SignatureCache κ] (i : Nat) : Routine Event (Crew κ) Unit := do
  match (← Routine.state).workers[i]? with
  | none => return ()
  | some w =>
    match w.missed, w.todo with
    | some r, _ =>
      let answer ← onPass (Pass.resolve r.base r.store r.question)
      Routine.modify fun c => c.withWorker i (w.resolved answer)
    | none, r :: rest =>
      let found ← onPass (Pass.lookup r.base r.store r.question)
      Routine.modify fun c => c.withWorker i (w.looked found r rest)
    | none, [] => return ()

def play [SignatureCache κ] : List Nat → Routine Event (Crew κ) Unit
  | [] => return ()
  | i :: rest => do
    turn i
    play rest

end Crew

end SigValidation
