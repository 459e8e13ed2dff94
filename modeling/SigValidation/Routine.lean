/-!
# Panics and routines

A routine runs on a state of type `σ`. It answers or panics, and either way leaves a state and the
events of type `ε` up to there. A panic ends an operation halfway and takes nothing back: what it
has done so far stays done. Sequencing appends the events and stops at the first panic. Each
constructor of `Panic` is one cause, with the message that the panic carries.
-/
namespace SigValidation

inductive Panic where
  /-- An amount was made from a number outside the valid range. -/
  | amountOutOfRange
  /-- A negative amount was asked for as an unsigned number. -/
  | negativeAmount
  /-- A batch was to hold no signature at all. -/
  | zeroCapacity
  /-- A lock was taken that an earlier panic had poisoned. -/
  | poisonedLock
  /-- More room was to be set aside than there are addresses. -/
  | tooMuchRoom
  /-- A text was to be wider, or cut to more characters, than a format can say. -/
  | formatTooWide
  /-- A number was to be drawn from an empty range. -/
  | emptyDraw
  /-- A scripted call was told to panic. -/
  | scripted (call : String)
  deriving DecidableEq, Repr

def Panic.message : Panic → String
  | amountOutOfRange => "assertion failed: satoshis <= MAX_MONEY && satoshis >= 0"
  | negativeAmount => "non-negative i64 amounts are always valid u64 values: TryFromIntError(())"
  | zeroCapacity => "batch capacity must be positive"
  | poisonedLock => "batch verifier mutex should be unpoisoned: PoisonError \x7b .. \x7d"
  | tooMuchRoom => "capacity overflow"
  | formatTooWide => "Formatting argument out of range"
  | emptyDraw => "cannot sample empty range"
  | scripted call => "scripted panic in " ++ call

/-- What a routine leaves. -/
structure Reply (ε σ α : Type) where
  outcome : Except Panic α
  state : σ
  events : List ε

/-- An operation on a state of type `σ` that answers with an `α`. -/
def Routine (ε σ α : Type) : Type := σ → Reply ε σ α

namespace Routine

variable {ε δ σ τ α β : Type}

def run (r : Routine ε σ α) (s : σ) : Reply ε σ α := r s

def answer (a : α) : Routine ε σ α := fun s => ⟨.ok a, s, []⟩

/-- Runs one routine, then another that depends on the first one's answer. -/
def andThen (r : Routine ε σ α) (next : α → Routine ε σ β) : Routine ε σ β := fun s =>
  let first := r s
  match first.outcome with
  | .error panic => ⟨.error panic, first.state, first.events⟩
  | .ok a =>
    let second := next a first.state
    ⟨second.outcome, second.state, first.events ++ second.events⟩

instance : Monad (Routine ε σ) where
  pure := answer
  bind := andThen

theorem andThen_answer (r : Routine ε σ α) : andThen r answer = r := by
  funext s
  simp only [andThen, answer]
  cases h : r s with
  | mk outcome state events => cases outcome <;> simp

theorem andThen_assoc {γ : Type} (r : Routine ε σ α) (f : α → Routine ε σ β)
    (g : β → Routine ε σ γ) : andThen (andThen r f) g = andThen r fun a => andThen (f a) g := by
  funext s
  simp only [andThen]
  cases h : r s with
  | mk outcome state events =>
    cases outcome with
    | error panic => rfl
    | ok a =>
      dsimp only
      cases h' : f a state with
      | mk outcome' state' events' => cases outcome' <;> simp [List.append_assoc]

instance : LawfulMonad (Routine ε σ) :=
  LawfulMonad.mk' (Routine ε σ) andThen_answer
    (fun a next => by
      funext s
      change andThen (answer a) next s = next a s
      simp [andThen, answer])
    andThen_assoc

def state : Routine ε σ σ := fun s => ⟨.ok s, s, []⟩

def modify (f : σ → σ) : Routine ε σ Unit := fun s => ⟨.ok (), f s, []⟩

def emit (event : ε) : Routine ε σ Unit := fun s => ⟨.ok (), s, [event]⟩

def panic (cause : Panic) : Routine ε σ α := fun s => ⟨.error cause, s, []⟩

/-- Runs a routine on a part of the state, and puts its events into other words. -/
def onPart (part : σ → τ) (replace : σ → τ → σ) (tell : δ → ε) (r : Routine δ τ α) :
    Routine ε σ α := fun s =>
  let reply := r (part s)
  ⟨reply.outcome, replace s reply.state, reply.events.map tell⟩

@[simp] theorem run_pure (a : α) (s : σ) : run (pure a : Routine ε σ α) s = ⟨.ok a, s, []⟩ := rfl

theorem run_bind (r : Routine ε σ α) (next : α → Routine ε σ β) (s : σ) :
    run (r >>= next) s =
      match (run r s).outcome with
      | .error panic => ⟨.error panic, (run r s).state, (run r s).events⟩
      | .ok a =>
        ⟨(run (next a) (run r s).state).outcome, (run (next a) (run r s).state).state,
          (run r s).events ++ (run (next a) (run r s).state).events⟩ := rfl

@[simp] theorem run_map (f : α → β) (r : Routine ε σ α) (s : σ) :
    run (f <$> r) s = ⟨(run r s).outcome.map f, (run r s).state, (run r s).events⟩ := by
  rw [← bind_pure_comp, run_bind]
  cases (run r s).outcome <;> simp [Except.map]

@[simp] theorem run_state (s : σ) : run (state : Routine ε σ σ) s = ⟨.ok s, s, []⟩ := rfl

@[simp] theorem run_modify (f : σ → σ) (s : σ) :
    run (modify f : Routine ε σ Unit) s = ⟨.ok (), f s, []⟩ := rfl

@[simp] theorem run_emit (event : ε) (s : σ) : run (emit event) s = ⟨.ok (), s, [event]⟩ := rfl

@[simp] theorem run_panic (cause : Panic) (s : σ) :
    run (panic cause : Routine ε σ α) s = ⟨.error cause, s, []⟩ := rfl

@[simp] theorem run_onPart (part : σ → τ) (replace : σ → τ → σ) (tell : δ → ε) (r : Routine δ τ α)
    (s : σ) :
    run (onPart part replace tell r) s =
      ⟨(run r (part s)).outcome, replace s (run r (part s)).state,
        (run r (part s)).events.map tell⟩ := rfl

end Routine

end SigValidation
