import SigValidation.Backend.Scripted
import SigValidation.Proofs.Accumulator.Outcomes
/-!
# Where the queued entries are

An accumulator does not know what its backend answers, but it knows what it has queued. Whatever the
backend does, as long as nothing panics, the entries committed so far and, behind them, those that
wait are the entries queued so far, in their order. How many wait follows from the answers alone: a
batch is flushed when a signature is queued after a whole number of batches, and when a verification
succeeds. Every call keeps this (`Accounted`), and every run comes to `Audited`.
-/
namespace SigValidation

namespace Logged

variable {κ : Type} [SignatureCache κ]

/-- A cache that answers has its log extended by the entry, whatever cache stands behind the log. -/
theorem sets_of_set {entry : Fingerprint} {before after : Logged κ}
    (h : (SignatureCache.set entry).Yields before () after) :
    after.sets = before.sets ++ [entry] := by
  have step : (onInner (SignatureCache.set entry) >>= fun _ =>
      Routine.modify fun l : Logged κ =>
        { l with sets := l.sets ++ [entry] }).Yields before () after := h
  obtain ⟨_, between, inner, written⟩ := step.of_bind
  obtain ⟨cache, _, rfl⟩ := inner.of_onPart
  exact written.state_eq ▸ rfl

/-- Entries put into a logged cache are written down in their order. -/
theorem sets_of_setAll {entries : List Fingerprint} {before after : Logged κ}
    (h : (setAll entries).Yields before () after) : after.sets = before.sets ++ entries := by
  induction entries generalizing before with
  | nil =>
    rw [← h.state_eq]
    exact (List.append_nil _).symm
  | cons entry rest ih =>
    obtain ⟨_, between, first, later⟩ := h.of_bind
    rw [ih later, sets_of_set first, List.append_assoc, List.singleton_append]

end Logged

namespace Accumulator

variable {σ κ : Type}

def performAll [BatchBackend σ] [SignatureCache κ] :
    List Operation → Routine Event (Workspace σ κ) (List Bool)
  | [] => return []
  | operation :: rest => do
    let answer ← operation.perform
    let answers ← performAll rest
    return answer :: answers

/-- Where a run answers, its first call does and so does the rest of it. -/
theorem of_run_performAll_cons [BatchBackend σ] [SignatureCache κ] {operation : Operation}
    {rest : List Operation} {answers : List Bool} {w v : Workspace σ κ} {events : List Event}
    (run : (performAll (operation :: rest)).run w = ⟨.ok answers, v, events⟩) :
    ∃ answer others between first later, operation.perform.run w = ⟨.ok answer, between, first⟩ ∧
      (performAll rest).run between = ⟨.ok others, v, later⟩ ∧ answers = answer :: others ∧
      events = first ++ later := by
  obtain ⟨answer, between, first, _, call, remaining, rfl⟩ := Routine.of_run_bind run
  obtain ⟨others, last, later, _, onward, answered, rfl⟩ := Routine.of_run_bind remaining
  cases answered
  rw [List.append_nil]
  exact ⟨answer, others, between, first, later, call, onward, rfl, rfl⟩

/-- The entries of the signatures that were queued, in order. -/
def queuedEntries : List (Operation × Bool) → List Fingerprint
  | [] => []
  | (.add _ _ _ entry, true) :: rest => entry :: queuedEntries rest
  | _ :: rest => queuedEntries rest

/-- The number of signatures queued since a verification succeeded, once one more call was
answered. -/
def tally (queued : Nat) : Operation × Bool → Nat
  | (.add .., true) => queued + 1
  | (.verify, true) => 0
  | (_, false) => queued

/-- How many signatures were queued since the last verification that succeeded, or since the
beginning. -/
def queuedSince (said : List (Operation × Bool)) : Nat := said.foldl tally 0

/-- How many of the signatures queued since then wait. A full batch is left as it is until one more
signature comes. -/
def inBatch (capacity queued : Nat) : Nat := if queued = 0 then 0 else (queued - 1) % capacity + 1

section Batches

variable {capacity : Nat} (positive : 0 < capacity) (queued : Nat)

include positive

/-- No more wait than a batch holds. -/
theorem inBatch_le : inBatch capacity queued ≤ capacity := by
  unfold inBatch
  split
  · exact Nat.zero_le _
  · exact Nat.mod_lt _ positive

/-- Counting on, a remainder grows by one or starts again from zero. -/
private theorem succ_mod_eq (n : Nat) :
    (n + 1) % capacity = if n % capacity + 1 = capacity then 0 else n % capacity + 1 := by
  have below := Nat.mod_lt n positive
  rw [← Nat.mod_add_mod n capacity 1]
  split
  · rename_i full
    rw [full, Nat.mod_self]
  · rw [Nat.mod_eq_of_lt (by omega)]

/-- The batch is full if and only if a whole number of batches was queued. -/
theorem inBatch_eq_capacity_iff :
    inBatch capacity queued = capacity ↔ 0 < queued ∧ capacity ∣ queued := by
  cases queued with
  | zero => simp [inBatch, Nat.ne_of_lt positive]
  | succ n =>
    simp only [inBatch, Nat.succ_ne_zero, if_false, Nat.add_sub_cancel, Nat.succ_pos,
      true_and, Nat.dvd_iff_mod_eq_zero, succ_mod_eq positive]
    split <;> simp [*]

/-- One more signature finds room, or is alone once a full batch is flushed. -/
theorem inBatch_succ :
    inBatch capacity (queued + 1) = if inBatch capacity queued = capacity then 1
      else inBatch capacity queued + 1 := by
  cases queued with
  | zero => simp [inBatch, Nat.ne_of_lt positive]
  | succ n =>
    simp only [inBatch, Nat.succ_ne_zero, if_false, Nat.add_sub_cancel, succ_mod_eq positive]
    split <;> rfl

end Batches

theorem queuedEntries_append (said more : List (Operation × Bool)) :
    queuedEntries (said ++ more) = queuedEntries said ++ queuedEntries more := by
  induction said with
  | nil => rfl
  | cons first rest ih =>
    obtain ⟨operation, answer⟩ := first
    cases operation <;> cases answer <;> simp [queuedEntries, ih]

theorem queuedSince_append (said : List (Operation × Bool)) (call : Operation × Bool) :
    queuedSince (said ++ [call]) = tally (queuedSince said) call := by
  rw [queuedSince, List.foldl_append]
  rfl

/-- What holds after some calls and their answers. -/
structure Accounted (capacity : Nat) (said : List (Operation × Bool)) (w : Workspace σ (Logged κ)) :
    Prop where
  sound : w.accumulator.poisoned = false
  same_capacity : w.accumulator.capacity = capacity
  balanced : w.cache.sets ++ w.accumulator.waiting = queuedEntries said
  length_waiting : w.accumulator.waiting.length = inBatch capacity (queuedSince said)

namespace Accounted

variable {capacity : Nat} {said : List (Operation × Bool)} {w v : Workspace σ (Logged κ)}
  {operation : Operation}
  {answer : Bool}

/-- Nothing is queued yet, nothing waits and nothing was set. -/
theorem fresh (positive : 0 < capacity) (context : σ) (cache : κ) :
    Accounted capacity [] ⟨{ capacity, capacity_pos := positive, context }, ⟨cache, []⟩⟩ where
  sound := rfl
  same_capacity := rfl
  balanced := rfl
  length_waiting := rfl

variable [BatchBackend σ] [SignatureCache κ]

/-- A call that answers keeps the account, whatever it answers. -/
theorem perform (h : Accounted capacity said w) (step : operation.perform.Yields w answer v) :
    Accounted capacity (said ++ [(operation, answer)]) v := by
  have positive : 0 < capacity := h.same_capacity ▸ w.accumulator.capacity_pos
  have lengths := h.length_waiting
  obtain ⟨events, outcome⟩ := Performed.of_yields step
  constructor
  case sound => cases outcome <;> exact h.sound
  case same_capacity => cases outcome <;> exact h.same_capacity
  case balanced =>
    rw [queuedEntries_append, ← h.balanced]
    cases outcome with
    | refused => cases operation <;> exact (List.append_nil _).symm
    | queued => exact (List.append_assoc ..).symm
    | flushed sound context told full sets | verified sound context told sets =>
      rw [← Logged.sets_of_setAll ⟨_, sets⟩]
      rfl
  case length_waiting =>
    rw [queuedSince_append]
    cases outcome with
    | refused => cases operation <;> exact lengths
    | queued sound context told room =>
      rw [h.same_capacity, lengths] at room
      rw [tally, inBatch_succ positive, if_neg room, ← lengths]
      exact List.length_append
    | flushed sound context told full sets =>
      rw [h.same_capacity, lengths] at full
      rw [tally, inBatch_succ positive, if_pos full]
      rfl
    | verified => rfl

/-- A run of calls none of which panics keeps the account. -/
theorem performAll (h : Accounted capacity said w) {operations : List Operation}
    {answers : List Bool} (run : (Accumulator.performAll operations).Yields w answers v) :
    answers.length = operations.length ∧ Accounted capacity (said ++ operations.zip answers) v := by
  induction operations generalizing said w answers with
  | nil =>
    have answered := Routine.Yields.outcome_eq run
    have left := Routine.Yields.state_eq run
    cases answered
    cases left
    rw [List.zip_nil_left, List.append_nil]
    exact ⟨rfl, h⟩
  | cons operation rest ih =>
    obtain ⟨events, run⟩ := run
    obtain ⟨answer, others, between, first, later, call, onward, rfl, rfl⟩ :=
      of_run_performAll_cons run
    obtain ⟨lengths, accounted⟩ := ih (h.perform ⟨first, call⟩) ⟨later, onward⟩
    refine ⟨congrArg Nat.succ lengths, ?_⟩
    rw [List.append_assoc] at accounted
    exact accounted

end Accounted

/-- The state after some calls, none of which panicked, and what the next call makes of it. -/
structure Audited [BatchBackend σ] [SignatureCache κ] (capacity : Nat)
    (said : List (Operation × Bool)) (w : Workspace σ (Logged κ)) : Prop where
  /-- What was committed and what waits is what was queued, each entry once and in order. -/
  balanced : w.cache.sets ++ w.accumulator.waiting = queuedEntries said
  pending_le : w.accumulator.waiting.length ≤ capacity
  pending_eq : w.accumulator.pendingCount = .ok (inBatch capacity (queuedSince said))
  /-- A signature that is queued flushes the others exactly if a whole number of batches was queued
  since the last verification, and then waits alone. -/
  add_true : ∀ signature key sighash entry v,
    (Accumulator.add signature key sighash entry).Yields w true v →
    if 0 < queuedSince said ∧ capacity ∣ queuedSince said then
      v.cache.sets = w.cache.sets ++ w.accumulator.waiting ∧ v.accumulator.waiting = [entry]
    else v.cache.sets = w.cache.sets ∧ v.accumulator.waiting = w.accumulator.waiting ++ [entry]
  verify_true : ∀ v, Accumulator.verify.Yields w true v →
    v.cache.sets = w.cache.sets ++ w.accumulator.waiting ∧ v.accumulator.waiting = []
  /-- A call that answers no, a verification in particular, commits nothing and loses nothing. -/
  answered_no : ∀ (operation : Operation) (v : Workspace σ (Logged κ)),
    operation.perform.Yields w false v →
    v.cache.sets = w.cache.sets ∧ v.accumulator.waiting = w.accumulator.waiting
  /-- Dropping the accumulator writes a log event at most. -/
  dropped : ∀ event ∈ w.accumulator.dropped, event = .log (.discarded w.accumulator.waiting.length)

theorem Accounted.audited [BatchBackend σ] [SignatureCache κ] {capacity : Nat}
    {said : List (Operation × Bool)} {w : Workspace σ (Logged κ)} (h : Accounted capacity said w) :
    Audited capacity said w := by
  have positive : 0 < capacity := h.same_capacity ▸ w.accumulator.capacity_pos
  constructor
  case balanced => exact h.balanced
  case pending_le =>
    rw [h.length_waiting]
    exact inBatch_le positive _
  case pending_eq =>
    rw [pendingCount, h.sound, h.length_waiting]
    rfl
  case add_true =>
    intro signature key sighash entry v step
    have call : (Operation.add signature key sighash entry).perform.Yields w true v := step
    obtain ⟨events, outcome⟩ := Performed.of_yields call
    have whole := inBatch_eq_capacity_iff positive (queuedSince said)
    rw [← h.length_waiting, ← h.same_capacity] at whole
    rw [← h.same_capacity]
    cases outcome with
    | queued sound context told room =>
      rw [if_neg (mt whole.mpr room)]
      exact ⟨rfl, rfl⟩
    | flushed sound context told full sets =>
      rw [if_pos (whole.mp full)]
      exact ⟨Logged.sets_of_setAll ⟨_, sets⟩, rfl⟩
  case verify_true =>
    intro v step
    have call : Operation.verify.perform.Yields w true v := step
    obtain ⟨events, outcome⟩ := Performed.of_yields call
    cases outcome with
    | verified sound context told sets => exact ⟨Logged.sets_of_setAll ⟨_, sets⟩, rfl⟩
  case answered_no =>
    intro operation v step
    obtain ⟨events, outcome⟩ := Performed.of_yields step
    cases outcome
    exact ⟨rfl, rfl⟩
  case dropped =>
    intro event written
    unfold dropped at written
    split at written
    · cases written
    · exact List.mem_singleton.mp written

/-- For every backend, every cache, every capacity and every sequence of calls none of which panics:
each entry that was queued is committed once and in its turn or still waits, batches are flushed
exactly when a signature is queued after a whole number of them, and nothing is committed otherwise
but by a verification that succeeds. -/
theorem performAll_audited [BatchBackend σ] [SignatureCache κ] {capacity : Nat}
    (positive : 0 < capacity) (context : σ) (cache : κ) {operations : List Operation}
    {answers : List Bool} {w : Workspace σ (Logged κ)}
    (run : (performAll operations).Yields ⟨{ capacity, capacity_pos := positive, context },
      ⟨cache, []⟩⟩ answers w) :
    answers.length = operations.length ∧ Audited capacity (operations.zip answers) w := by
  obtain ⟨lengths, accounted⟩ := (Accounted.fresh positive context cache).performAll run
  exact ⟨lengths, accounted.audited⟩

/-- A backend that fails a verification, goes on taking signatures all the same, and then calls
itself unusable. -/
theorem performAll_audited_fickle :
    let add :=
      fun n => Operation.add [] ⟨Bytes32.replicate 0⟩ ⟨Bytes32.replicate 0⟩ ⟨Bytes32.replicate n⟩
    let backend : ScriptedBackend :=
      { isUsableScript := [.answer true, .answer true, .answer true, .answer false],
        verifyScript := [.answer false] }
    let cache : BoundedCache := ⟨1, [], fun _ => 0⟩
    let start : Workspace ScriptedBackend (Logged BoundedCache) :=
      ⟨{ capacity := 2, capacity_pos := Nat.two_pos, context := backend }, ⟨cache, []⟩⟩
    let calls := [add 1, .verify, add 2, add 3, add 4]
    let answers := [true, false, true, true, false]
    ∃ w, (performAll calls).Yields start answers w ∧ answers.length = calls.length ∧
      Audited 2 (calls.zip answers) w ∧
      w.cache.sets = [⟨Bytes32.replicate 1⟩, ⟨Bytes32.replicate 2⟩] ∧
      w.accumulator.waiting = [⟨Bytes32.replicate 3⟩] := by
  intro add backend cache start calls answers
  have run : (performAll calls).Yields start answers ((performAll calls).run start).state :=
    Routine.yields_of_outcome_eq (by decide +kernel)
  obtain ⟨lengths, audited⟩ := performAll_audited Nat.two_pos backend cache run
  exact ⟨_, run, lengths, audited, by decide +kernel, by decide +kernel⟩

end Accumulator

end SigValidation
