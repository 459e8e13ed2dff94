import SigValidation.Proofs.Accumulator.Accounting
/-!
# Batches and signatures one by one

A batch spreads its verdict over the answers of the calls: a signature that cannot be read is
refused at once, an invalid one is found when its batch is full or verified at the end. While every
answer is yes, what was queued is valid apart from what still waits (`offer_true`), and an answer
that is no comes from a signature that is not valid, be it the one offered or one that waits
(`offer_false`). So all answers are yes exactly if the base checker accepts every signature,
whatever the capacity and the order.
-/
namespace SigValidation

open Accumulator

/-- A signature as it comes to the accumulator: what is asked, and the entry to be made once it is
verified. -/
structure Submission where
  signature : Bytes
  key : XOnlyKey
  sighash : SigHash
  entry : Fingerprint

namespace Submission

def question (s : Submission) : Check := .schnorr s.signature s.key s.sighash

def operation (s : Submission) : Operation := .add s.signature s.key s.sighash s.entry

end Submission

namespace OneQueue

variable {ι : Type} {capacity : Nat} {question : Check} {label : ι} {q next : OneQueue ι}

/-- A signature that is taken joins those that wait or were committed, with its verdict. -/
theorem offer_true (yes : q.offer capacity question label = (true, next)) :
    next.usable = true ∧ next.allValid =
      (q.allValid && question.isValid) ∧ next.labels = q.labels ++ [label] := by
  have queued := q.labels_offer capacity question label
  have offered := q.offered capacity question label
  rw [yes] at queued offered
  cases offered with
  | queued read usable room => exact ⟨usable, by simp [push, allValid], queued⟩
  | flushed read usable full sound =>
    rw [sound, Bool.true_and]
    exact ⟨rfl, by simp [allValid], queued⟩

/-- A signature is refused only if it, or one that waits, is not valid. -/
theorem offer_false (schnorr : question.isSchnorr = true) (usable : q.usable = true)
    (no : q.offer capacity question label = (false, next)) :
    (q.allValid && question.isValid) = false := by
  have offered := q.offered capacity question label
  rw [no] at offered
  cases offered with
  | malformed unread => rw [Check.isValid_of_item?_none schnorr unread, Bool.and_false]
  | unusable unusable => exact absurd (usable.symm.trans unusable) Bool.noConfusion
  | failed read usable full unsound => rw [unsound, Bool.false_and]

theorem verify_fst (usable : q.usable = true) : q.verify.1 = q.allValid := by
  cases sound : q.allValid with
  | true => rw [verify_valid usable sound]
  | false => rw [verify_invalid usable sound]

def performAll (capacity : Nat) :
    List Operation → OneQueue Fingerprint → List Bool × OneQueue Fingerprint
  | [], q => ([], q)
  | operation :: rest, q =>
    let (answer, next) := operation.onQueue capacity q
    let (answers, last) := next.performAll capacity rest
    (answer :: answers, last)

theorem length_performAll (capacity : Nat) (operations : List Operation)
    (q : OneQueue Fingerprint) :
    (q.performAll capacity operations).1.length = operations.length := by
  induction operations generalizing q with
  | nil => rfl
  | cons operation rest ih => exact congrArg Nat.succ (ih _)

/-- Some submissions and then a verification, through a queue that is usable: all answers are yes
exactly if all that waits and all that comes is valid, and then all of it is committed. The first
answer moves a verdict from what comes to what waits, so this is for every queue. -/
theorem performAll_submissions (capacity : Nat) {q : OneQueue Fingerprint}
    (usable : q.usable = true) (submissions : List Submission) :
    let run := q.performAll capacity (submissions.map Submission.operation ++ [.verify])
    ((∀ answer ∈ run.1, answer = true) ↔ q.allValid = true ∧
      ∀ s ∈ submissions, s.question.isValid = true) ∧
      ((∀ answer ∈ run.1, answer = true) →
        run.2.committed = q.labels ++ submissions.map Submission.entry ∧ run.2.pending = []) := by
  intro run
  induction submissions generalizing q with
  | nil =>
    have run_eq : run = ([q.verify.1], q.verify.2) := rfl
    rw [run_eq, List.forall_mem_singleton, verify_fst usable]
    refine ⟨by simp, ?_⟩
    intro sound
    rw [verify_valid usable sound]
    simp [labels]
  | cons s rest ih =>
    have kind : s.question.isSchnorr = true := rfl
    cases offer : q.offer capacity s.question s.entry with
    | mk answer next =>
      let later := next.performAll capacity (rest.map Submission.operation ++ [.verify])
      have run_eq : run = (answer :: later.1, later.2) := by
        have first : s.operation.onQueue capacity q = (answer, next) := offer
        change q.performAll capacity
          (s.operation :: (rest.map Submission.operation ++ [.verify])) = _
        rw [performAll, first]
      rw [run_eq, List.forall_mem_cons, List.forall_mem_cons, ← and_assoc, ← Bool.and_eq_true]
      cases answer with
      | false =>
        rw [offer_false kind usable offer]
        simp
      | true =>
        obtain ⟨still, sound, labels_eq⟩ := offer_true offer
        obtain ⟨verdict, committed⟩ := ih still
        rw [← sound, ← verdict]
        refine ⟨by simp [later], ?_⟩
        rintro ⟨_, yes⟩
        rw [List.map_cons, List.append_cons, ← labels_eq]
        exact committed yes

end OneQueue

section

variable {κ : Type} [SignatureCache κ] [CalmCache κ]

/-- Some calls on an accumulator and on the queue that it is. -/
theorem Tracks.performAll {a : Accumulator BatchContext} {q : OneQueue Fingerprint}
    (h : Tracks .callbacks a q) (operations : List Operation) (cache : κ) :
    ∃ after last, (Accumulator.performAll operations).Yields ⟨a, Logged.mk cache q.committed⟩
        (q.performAll a.capacity operations).1 ⟨after,
          Logged.mk last (q.performAll a.capacity operations).2.committed⟩ ∧
      Tracks .callbacks after (q.performAll a.capacity operations).2 := by
  induction operations generalizing a q cache with
  | nil => exact ⟨a, cache, Routine.yields_pure _ _, h⟩
  | cons operation rest ih =>
    obtain ⟨between, next, step, tracks, capacity⟩ := h.operation_logged operation cache
    have call : operation.perform.Yields ⟨a, Logged.mk cache q.committed⟩ _ _ := step
    obtain ⟨after, last, later, tracked⟩ := ih tracks next
    rw [capacity] at later tracked
    exact ⟨after, last, call.bind (later.bind (Routine.yields_pure _ _)), tracked⟩

/-- For every capacity and every order in which signatures are added: the calls are answered, all of
them yes exactly if the base checker accepts every signature, and then each entry was set once, in
the order of the signatures, and none waits. -/
theorem batched_iff_one_by_one {capacity : Nat} (positive : 0 < capacity)
    {submissions order : List Submission} (same : order.Perm submissions) (base : BaseChecker)
    (cache : κ) :
    ∃ answers w, (performAll (order.map Submission.operation ++ [.verify])).Yields
        (⟨fresh capacity positive, ⟨cache, []⟩⟩ : Workspace BatchContext (Logged κ)) answers w ∧
      answers.length = order.length + 1 ∧
      ((∀ answer ∈ answers, answer = true) ↔ ∀ s ∈ submissions, base.check s.question = true) ∧
      ((∀ answer ∈ answers, answer = true) →
        w.cache.sets = order.map Submission.entry ∧ w.accumulator.waiting = []) := by
  have start : Tracks .callbacks (fresh capacity positive) {} := .fresh positive
  obtain ⟨after, last, run, tracks⟩ :=
    start.performAll (order.map Submission.operation ++ [.verify]) cache
  rw [show (fresh capacity positive).capacity = capacity from rfl] at run tracks
  have lengths :=
    OneQueue.length_performAll capacity (order.map Submission.operation ++ [.verify]) {}
  obtain ⟨verdict, committed⟩ := OneQueue.performAll_submissions capacity (q := {}) rfl order
  refine ⟨_, _, run, by simpa using lengths, ?_, ?_⟩
  · rw [verdict]
    simp [OneQueue.allValid, BaseChecker.check, same.mem_iff]
  · intro yes
    obtain ⟨sets, pending⟩ := committed yes
    refine ⟨sets, ?_⟩
    rw [tracks.waiting_eq, pending]
    rfl

end

/-- Two valid signatures, in batches of one and in the other order: both are committed, the second
one first. -/
theorem batched_iff_one_by_one_swapped :
    let valid := fun n => Submission.mk
      ((Bytes32.ofNat 0xe8e3115abfc3dc3e87bce6232d0a5407cb469b889445d15f0c8a2dabad9ad12e).toList ++
        (Bytes32.ofNat 0x53f93f0ef705b4207e27eb746fc83f3cf903af6be963adf5bd6687cd33451452).toList)
      ⟨Bytes32.ofNat 0xdbb1f1b0878c62a94b3cffdcc9def5455dcd1d2e2d069ee4e9361aa4ae47bc73⟩
      ⟨Bytes32.ofNat 0x000000025a5a5a5a5a5a5a5a5a5a5a5a5a5a5a5a5a5a5a5a5a5a5a5a5a5a5a5a⟩
        ⟨Bytes32.replicate n⟩
    let order := [valid 2, valid 1]
    0 < 1 ∧ order.Perm [valid 1, valid 2] ∧ CalmCache BoundedCache ∧
      ∃ answers w, (performAll (order.map Submission.operation ++ [.verify])).Yields
          (⟨fresh 1 Nat.one_pos, ⟨⟨1, [], fun _ => 0⟩, []⟩⟩ :
            Workspace BatchContext (Logged BoundedCache))
          answers w ∧
        answers.length = 3 ∧ (∀ answer ∈ answers, answer = true) ∧
        w.cache.sets = [⟨Bytes32.replicate 2⟩, ⟨Bytes32.replicate 1⟩] ∧
        w.accumulator.waiting = [] := by
  intro valid order
  have swapped : order.Perm [valid 1, valid 2] := .swap (valid 1) (valid 2) []
  obtain ⟨answers, w, run, lengths, verdict, committed⟩ :=
    batched_iff_one_by_one Nat.one_pos swapped ⟨"", 0, ⟨0, Nat.zero_le _⟩,
      {}⟩ (⟨1, [], fun _ => 0⟩ : BoundedCache)
  have accepted : ∀ s ∈ [valid 1, valid 2], s.question.isValid = true := by
    rw [List.forall_mem_cons, List.forall_mem_singleton]
    exact ⟨Check.isValid_sample, Check.isValid_sample⟩
  obtain ⟨sets, waiting⟩ := committed (verdict.mpr accepted)
  exact ⟨Nat.one_pos, swapped, inferInstance, answers, w, run, lengths, verdict.mpr accepted,
    sets, waiting⟩

end SigValidation
