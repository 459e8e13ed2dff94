import SigValidation.Proofs.Check.Recut
import SigValidation.Proofs.Pass.Verdict
/-!
# Asking again after a failure

When a batching pass fails, all its answers are void, and the checks are made once more through a
pass that does not batch. It works on the cache that the failed pass leaves. Full batches may have
been committed to that cache before the failure, and entries may have been erased or evicted from
it; but it still vouches for the Schnorr checks it holds. So the second pass answers each of them
with the truth, and an invalid one that the failed pass let through is found (`Pass.recovery`).
-/
namespace SigValidation

theorem QueuePass.queue_checkAll_eq_none {p : QueuePass} (immediate : p.queue = none)
    (requests : List Request) : (p.checkAll requests).2.queue = none := by
  induction requests generalizing p with
  | nil => exact immediate
  | cons r rest ih => exact ih (queue_check_eq_none immediate)

/-- Without a queue nothing can go wrong. -/
theorem QueuePass.finish_immediate {p : QueuePass} (immediate : p.queue = none) :
    p.finish = (.ok (), p.cache) := by
  obtain ⟨queue, cache⟩ := p
  cases immediate
  rfl

/-- A pass that fails commits nothing any more. -/
theorem QueuePass.finish_cache_of_error {p : QueuePass} {cause : PassError}
    (failed : p.finish.1 = .error cause) : p.finish.2 = p.cache := by
  rw [finish_eq] at failed ⊢
  split at failed
  · cases failed
  · rename_i bad
    rw [if_neg bad]

/-- A pass that does not batch, over a cache that vouches for the checks it holds, ends well and
answers every Schnorr check with the truth. -/
theorem Pass.checkAll_immediate (config : Config) {cache : BoundedCache} {requests : List Request}
    (collisionless : Collisionless (requests.map Request.question))
    (vouches : Vouches (requests.map Request.question) cache) :
    ∃ answers pass,
      (checkAll requests).Yields (start { config with batchSchnorr := false } cache) answers pass ∧
      pass.finish.outcome = .ok (.ok ()) ∧ answers.length = requests.length ∧
      ∀ x ∈ requests.zip answers, x.1.question.isSchnorr = true → x.2 = x.1.truth := by
  obtain ⟨pass, step, follows⟩ :=
    (Follows.start { config with batchSchnorr := false } cache).checkAll requests
  have reliable :=
    (Reliable.start vouches { config with batchSchnorr := false }).checkAll collisionless
    fun r member => List.mem_map_of_mem member
  have lengths :=
    QueuePass.length_checkAll requests (.start { config with batchSchnorr := false } cache)
  have immediate := QueuePass.queue_checkAll_eq_none
    (p := .start { config with batchSchnorr := false } cache) rfl requests
  have ends := follows.finish.1
  rw [QueuePass.finish_immediate immediate] at ends
  refine ⟨_, pass, step, ends, lengths, reliable.justified.truthful ?_⟩
  rw [QueuePass.finish_immediate immediate]

/-- What a second run of some checks, after the failed one, says of them. -/
structure Recovered (requests : List Request) (answers again : List Bool) : Prop where
  length_eq : again.length = requests.length
  /-- Exactly the Schnorr checks that the base checker rejects are answered with no. -/
  truthful : ∀ x ∈ requests.zip again, x.1.question.isSchnorr = true → x.2 = x.1.truth
  /-- One of them was answered with yes in the failed run. -/
  exposes : ∃ (i : Nat) (r : Request), requests[i]? = some r ∧ r.question.isSchnorr = true ∧
    answers[i]? = some true ∧ again[i]? = some false

/-- For every sequence of checks through a batching pass that fails, over every cache that vouches
for the Schnorr checks it holds at the start, and where no two fingerprints of the run collide: made
again without batching, over the cache that is left, the Schnorr checks are answered with the truth,
and an answer of yes in the failed pass is refuted. -/
theorem Pass.recovery (config : Config) (cache : BoundedCache) (requests : List Request)
    (collisionless : Collisionless (requests.map Request.question))
    (vouches : ∀ r ∈ requests, r.question.isSchnorr = true →
      r.question.fingerprint ∈ cache.entries → r.truth = true)
    {answers : List Bool} {pass : Pass BoundedCache} {cause : PassError}
    (run : (checkAll requests).Yields (start { config with batchSchnorr := true } cache) answers
      pass)
    (failed : pass.finish.outcome = .ok (.error cause)) :
    ∃ again second,
      (checkAll requests).Yields
        (start { config with batchSchnorr := false } pass.finish.state) again second ∧
      second.finish.outcome = .ok (.ok ()) ∧ Recovered requests answers again := by
  obtain ⟨same, step, follows⟩ :=
    (Follows.start { config with batchSchnorr := true } cache).checkAll requests
  obtain ⟨rfl, rfl⟩ := run.unique step
  have vouching : Vouches (requests.map Request.question) cache := by
    intro c member kind held
    obtain ⟨r, asked, rfl⟩ := List.mem_map.mp member
    exact vouches r asked kind held
  have reliable :=
    (Reliable.start vouching { config with batchSchnorr := true }).checkAll collisionless
    fun r member => List.mem_map_of_mem member
  rw [follows.finish.1] at failed
  have verdict := Except.ok.inj failed
  obtain ⟨again, second, rerun, ends, length_eq, truthful⟩ :=
    checkAll_immediate config collisionless reliable.vouches
  rw [follows.finish.2, QueuePass.finish_cache_of_error verdict]
  refine ⟨again, second, rerun, ends, length_eq, truthful, ?_⟩
  obtain ⟨x, said, kind, yes, wrong⟩ := reliable.justified.blamed cause verdict
  obtain ⟨i, stands⟩ := List.getElem?_of_mem said
  obtain ⟨asked, answered⟩ := List.getElem?_zip_eq_some.mp stands
  obtain ⟨inside, _⟩ := List.getElem?_eq_some_iff.mp asked
  have later : again[i]? = some again[i] := List.getElem?_eq_getElem (length_eq ▸ inside)
  have truth : again[i] = x.1.truth := truthful (x.1, again[i])
    (List.mem_of_getElem? (List.getElem?_zip_eq_some.mpr ⟨asked, later⟩)) kind
  refine ⟨i, x.1, asked, kind, ?_, ?_⟩
  · rw [answered, yes]
  · rw [later, truth, wrong]

/-- A valid signature and one that is not are queued together, and the second pass tells them
apart. -/
theorem Pass.recovery_forged :
    let requests : List Request := [.sample, .forged]
    let cache : BoundedCache := { maxEntries := 2 }
    Collisionless (requests.map Request.question) ∧
      (∀ r ∈ requests, r.question.isSchnorr = true → r.question.fingerprint ∈ cache.entries →
        r.truth = true) ∧
      ∃ pass cause, (checkAll requests).Yields (start ⟨true, 2⟩ cache) [true, true] pass ∧
        pass.finish.outcome = .ok (.error cause) ∧
        ∃ again second, (checkAll requests).Yields
          (start ⟨false, 2⟩ pass.finish.state) again second ∧
          second.finish.outcome = .ok (.ok ()) ∧ Recovered requests [true, true] again := by
  intro requests cache
  have collisionless : Collisionless (requests.map Request.question) :=
    Collisionless.samples.mono (by simp [requests, Request.sample, Request.forged])
  have vouches : ∀ r ∈ requests, r.question.isSchnorr = true →
    r.question.fingerprint ∈ cache.entries →
      r.truth = true := fun r _ _ held => by cases held
  obtain ⟨pass, run, follows⟩ := (Follows.start ⟨true, 2⟩ cache).checkAll requests
  rw [QueuePass.checkAll_forged 2 rfl] at run follows
  exact ⟨collisionless, vouches, pass, .invalidBatch 2, run, follows.finish.1,
    recovery ⟨true, 2⟩ cache requests collisionless vouches run follows.finish.1⟩

end SigValidation
