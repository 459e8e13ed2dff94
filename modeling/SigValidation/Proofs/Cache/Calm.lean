import SigValidation.Proofs.Routine.Yields
/-!
# Caches that never panic

A calm cache answers every call. What is put into it one entry after the other is then a function of
the cache, `putAll`. A logged cache is any cache beside the list of the entries set in it, in order;
it shows what an accumulator has committed, also where the cache itself leaves an entry out or
evicts it.
-/
namespace SigValidation

/-- A cache none of whose calls panics. -/
class CalmCache (κ : Type) [SignatureCache κ] : Prop where
  get_answers : ∀ (entry : Fingerprint) (erase : Bool) (cache : κ),
    ∃ found after, (SignatureCache.get entry erase).Yields cache found after
  set_answers : ∀ (entry : Fingerprint) (cache : κ),
    ∃ after, (SignatureCache.set entry).Yields cache () after

section Calm

variable {κ : Type} [SignatureCache κ]

/-- The cache that setting an entry leaves. -/
def put (entry : Fingerprint) (cache : κ) : κ := ((SignatureCache.set entry).run cache).state

/-- The cache that setting some entries leaves, one after the other. -/
def putAll : List Fingerprint → κ → κ
  | [], cache => cache
  | entry :: rest, cache => putAll rest (put entry cache)

variable [CalmCache κ]

theorem yields_set (entry : Fingerprint) (cache : κ) :
    (SignatureCache.set entry).Yields cache () (put entry cache) := by
  obtain ⟨after, h⟩ := CalmCache.set_answers entry cache
  have same : put entry cache = after := h.state_eq
  rw [same]
  exact h

theorem yields_setAll (entries : List Fingerprint) (cache : κ) :
    (setAll entries).Yields cache () (putAll entries cache) := by
  induction entries generalizing cache with
  | nil => exact Routine.yields_pure () cache
  | cons entry rest ih => exact (yields_set entry cache).bind (ih (put entry cache))

/-- However setting some entries is seen to end, it answers and leaves them set. -/
theorem eq_of_run_setAll {entries : List Fingerprint} {cache after : κ}
    {outcome : Except Panic Unit} {setting : List Notice}
    (sets : (setAll entries).run cache = ⟨outcome, after, setting⟩) :
    outcome = .ok () ∧ after = putAll entries cache := by
  have whole := yields_setAll entries cache
  have outcome_eq := whole.outcome_eq
  have state_eq := whole.state_eq
  rw [sets] at outcome_eq state_eq
  exact ⟨outcome_eq, state_eq⟩

end Calm

/-- A cache and the entries set in it so far, in order. -/
structure Logged (κ : Type) where
  cache : κ
  sets : List Fingerprint := []

namespace Logged

variable {κ : Type}

def onInner {α : Type} (r : Routine Notice κ α) : Routine Notice (Logged κ) α :=
  Routine.onPart cache (fun l cache => { l with cache }) id r

/-- Every call is passed on; a call of `set` that answers is written down. -/
instance [SignatureCache κ] : SignatureCache (Logged κ) where
  get entry erase := onInner (SignatureCache.get entry erase)
  set entry := do
    onInner (SignatureCache.set entry)
    Routine.modify fun l => { l with sets := l.sets ++ [entry] }

variable [SignatureCache κ] [CalmCache κ]

theorem yields_set (entry : Fingerprint) (l : Logged κ) :
    (SignatureCache.set entry).Yields l () ⟨put entry l.cache, l.sets ++ [entry]⟩ :=
  (Routine.Yields.onPart (SigValidation.yields_set entry l.cache)).bind (Routine.yields_modify _ _)

omit [CalmCache κ] in
/-- Looking an entry up sets nothing. -/
theorem yields_get {entry : Fingerprint} {erase found : Bool} {l : Logged κ} {cache : κ}
    (h : (SignatureCache.get entry erase).Yields l.cache found cache) :
    (SignatureCache.get entry erase).Yields l found { l with cache } := by
  change (onInner (SignatureCache.get entry erase)).Yields l found { l with cache }
  exact Routine.Yields.onPart h

instance : CalmCache (Logged κ) where
  get_answers entry erase l := by
    obtain ⟨found, after, h⟩ := CalmCache.get_answers entry erase l.cache
    exact ⟨found, { l with cache := after }, yields_get h⟩
  set_answers entry l := ⟨_, yields_set entry l⟩

@[simp] theorem putAll_eq (entries : List Fingerprint) (l : Logged κ) :
    putAll entries l = ⟨putAll entries l.cache, l.sets ++ entries⟩ := by
  induction entries generalizing l with
  | nil => simp [putAll]
  | cons entry rest ih =>
    have step : put entry l = ⟨put entry l.cache, l.sets ++ [entry]⟩ :=
      (yields_set entry l).state_eq
    rw [putAll, ih, step]
    simp [putAll]

end Logged

end SigValidation
