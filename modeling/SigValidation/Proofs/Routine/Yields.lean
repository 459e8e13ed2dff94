import SigValidation.Accumulator
/-!
# Routines that answer

`Yields r s a t` says that the routine answers `a` from the state `s` and leaves the state `t`: in
particular it does not panic. What it writes on the way is left open. A routine is followed step by
step with one rule for each way of putting routines together, so that a caller cites the rule of a
routine and never opens it.
-/
namespace SigValidation

namespace Routine

variable {ε δ σ τ α β : Type}

/-- The routine answers `a` from the state `s` and leaves the state `t`. -/
def Yields (r : Routine ε σ α) (s : σ) (a : α) (t : σ) : Prop :=
  ∃ events, r.run s = ⟨.ok a, t, events⟩

theorem Yields.outcome_eq {r : Routine ε σ α} {s t : σ} {a : α} (h : r.Yields s a t) :
    (r.run s).outcome = .ok a := by
  obtain ⟨events, h⟩ := h
  rw [h]

theorem Yields.state_eq {r : Routine ε σ α} {s t : σ} {a : α} (h : r.Yields s a t) :
    (r.run s).state = t := by
  obtain ⟨events, h⟩ := h
  rw [h]

/-- A routine answers in one way only. -/
theorem Yields.unique {r : Routine ε σ α} {s t u : σ} {a b : α} (h : r.Yields s a t)
    (h' : r.Yields s b u) : a = b ∧ t = u :=
  ⟨Except.ok.inj (h.outcome_eq.symm.trans h'.outcome_eq), h.state_eq.symm.trans h'.state_eq⟩

theorem yields_of_outcome_eq {r : Routine ε σ α} {s : σ} {a : α} (h : (r.run s).outcome = .ok a) :
    r.Yields s a (r.run s).state :=
  ⟨(r.run s).events, by rw [← h]⟩

theorem yields_pure (a : α) (s : σ) : (pure a : Routine ε σ α).Yields s a s := ⟨[], rfl⟩

theorem yields_state (s : σ) : (state : Routine ε σ σ).Yields s s s := ⟨[], rfl⟩

theorem yields_modify (f : σ → σ) (s : σ) :
    (modify f : Routine ε σ Unit).Yields s () (f s) := ⟨[], rfl⟩

theorem yields_emit (event : ε) (s : σ) : (emit event).Yields s () s := ⟨[event], rfl⟩

theorem Yields.bind {r : Routine ε σ α} {next : α → Routine ε σ β} {s t u : σ} {a : α} {b : β}
    (first : r.Yields s a t) (rest : (next a).Yields t b u) : (r >>= next).Yields s b u := by
  obtain ⟨events, first⟩ := first
  obtain ⟨events', rest⟩ := rest
  exact ⟨events ++ events', by rw [run_bind, first]; simp only [rest]⟩

/-- After a routine that answers, a sequence comes to what its rest comes to, be it a panic. -/
theorem Yields.outcome_bind {r : Routine ε σ α} {s t : σ} {a : α} (first : r.Yields s a t)
    (next : α → Routine ε σ β) : ((r >>= next).run s).outcome = ((next a).run t).outcome := by
  obtain ⟨events, first⟩ := first
  rw [run_bind, first]

theorem Yields.state_bind {r : Routine ε σ α} {s t : σ} {a : α} (first : r.Yields s a t)
    (next : α → Routine ε σ β) : ((r >>= next).run s).state = ((next a).run t).state := by
  obtain ⟨events, first⟩ := first
  rw [run_bind, first]

/-- Where a sequence answers, both of its parts do, and its events are theirs. -/
theorem of_run_bind {r : Routine ε σ α} {next : α → Routine ε σ β} {s u : σ} {b : β}
    {events : List ε} (h : (r >>= next).run s = ⟨.ok b, u, events⟩) :
    ∃ a t first later, r.run s = ⟨.ok a, t, first⟩ ∧
      (next a).run t = ⟨.ok b, u, later⟩ ∧ events = first ++ later := by
  rw [run_bind] at h
  cases reply : r.run s with
  | mk outcome t first =>
    rw [reply] at h
    cases outcome with
    | error cause => cases h
    | ok a =>
      obtain ⟨answers, leaves, told⟩ := (Reply.mk.injEq ..).mp h
      refine ⟨a, t, first, ((next a).run t).events, rfl, ?_, told.symm⟩
      rw [← answers, ← leaves]

/-- A sequence that answers is two routines that answer. -/
theorem Yields.of_bind {r : Routine ε σ α} {next : α → Routine ε σ β} {s u : σ} {b : β}
    (h : (r >>= next).Yields s b u) : ∃ a t, r.Yields s a t ∧ (next a).Yields t b u := by
  obtain ⟨events, h⟩ := h
  obtain ⟨a, t, first, later, starts, ends, _⟩ := of_run_bind h
  exact ⟨a, t, ⟨first, starts⟩, ⟨later, ends⟩⟩

/-- A routine on a part of the state answers as it does on that part alone. -/
theorem Yields.onPart {part : σ → τ} {replace : σ → τ → σ} {tell : δ → ε} {r : Routine δ τ α}
    {s : σ} {t : τ} {a : α} (h : r.Yields (part s) a t) :
    (Routine.onPart part replace tell r).Yields s a (replace s t) := by
  obtain ⟨events, h⟩ := h
  exact ⟨events.map tell, by rw [run_onPart, h]⟩

theorem of_run_onPart {part : σ → τ} {replace : σ → τ → σ} {tell : δ → ε} {r : Routine δ τ α}
    {s u : σ} {a : α} {events : List ε}
    (h : (Routine.onPart part replace tell r).run s = ⟨.ok a, u, events⟩) :
    ∃ t told, r.run (part s) = ⟨.ok a, t, told⟩ ∧ u = replace s t ∧ events = told.map tell := by
  rw [run_onPart] at h
  obtain ⟨answers, leaves, tells⟩ := (Reply.mk.injEq ..).mp h
  refine ⟨(r.run (part s)).state, (r.run (part s)).events, ?_, leaves.symm, tells.symm⟩
  rw [← answers]

theorem Yields.of_onPart {part : σ → τ} {replace : σ → τ → σ} {tell : δ → ε} {r : Routine δ τ α}
    {s u : σ} {a : α} (h : (Routine.onPart part replace tell r).Yields s a u) :
    ∃ t, r.Yields (part s) a t ∧ u = replace s t := by
  obtain ⟨events, h⟩ := h
  obtain ⟨t, told, answers, leaves, _⟩ := of_run_onPart h
  exact ⟨t, ⟨told, answers⟩, leaves⟩

end Routine

namespace Workspace

variable {σ κ α : Type}

theorem yields_onContext {r : Routine Notice σ α} {w : Workspace σ κ} {context : σ} {a : α}
    (h : r.Yields w.accumulator.context a context) :
    (onContext r).Yields w a (w.withContext context) :=
  Routine.Yields.onPart h

theorem yields_onCache {r : Routine Notice κ α} {w : Workspace σ κ} {cache : κ} {a : α}
    (h : r.Yields w.cache a cache) : (onCache r).Yields w a (w.withCache cache) :=
  Routine.Yields.onPart h

/-- Under a lock that is not poisoned an answering routine runs as it does without one. -/
theorem yields_locked {r : Routine Event (Workspace σ κ) α} {w v : Workspace σ κ} {a : α}
    (sound : w.accumulator.poisoned = false) (h : r.Yields w a v) : (locked r).Yields w a v := by
  obtain ⟨events, h⟩ := h
  refine ⟨events, ?_⟩
  have plain : r w = ⟨.ok a, v, events⟩ := h
  simp only [Routine.run, locked, sound, Bool.false_eq_true, if_false, plain]

/-- Where a routine answers under the lock, the lock is not poisoned and the routine answers without
it. -/
theorem of_run_locked {r : Routine Event (Workspace σ κ) α} {w v : Workspace σ κ} {a : α}
    {events : List Event} (h : (locked r).run w = ⟨.ok a, v, events⟩) :
    w.accumulator.poisoned = false ∧ r.run w = ⟨.ok a, v, events⟩ := by
  change locked r w = _ at h
  unfold locked at h
  cases sound : w.accumulator.poisoned with
  | true =>
    rw [if_pos sound] at h
    cases h
  | false =>
    rw [if_neg (by rw [sound]; decide)] at h
    refine ⟨rfl, ?_⟩
    change r w = _
    cases plain : r w with
    | mk outcome u told =>
      rw [plain] at h
      cases outcome with
      | ok a => exact h
      | error cause => cases h

theorem of_yields_locked {r : Routine Event (Workspace σ κ) α} {w v : Workspace σ κ} {a : α}
    (h : (locked r).Yields w a v) : w.accumulator.poisoned = false ∧ r.Yields w a v := by
  obtain ⟨events, h⟩ := h
  obtain ⟨sound, plain⟩ := of_run_locked h
  exact ⟨sound, events, plain⟩

end Workspace

end SigValidation
