import SigValidation.Proofs.Check.Recut
import SigValidation.Proofs.Checker.Commons
/-!
# What an answer to an ECDSA check is worth

An ECDSA check is never deferred: its answer comes from the cache or from the cryptography. Over a
cache that began empty a hit means that a check with the same fingerprint input was accepted and
stored before. That check was the same one, unless its bytes were cut elsewhere into key and
signature; and as the key of an accepted check is a point, a hit can then only be wrong for a key
that is none (`Commons.ecdsa_answer`). It can be wrong for such a key
(`Commons.ecdsa_answer_recut`).
-/
namespace SigValidation.Commons

variable {σ : Type} [BatchBackend σ]

def questions (actions : List Action) : List Check :=
  (actions.filterMap Action.request?).map Request.question

theorem mem_questions {actions : List Action} {c : Commons σ} {turn : Turn} {r : Request}
    (member : turn ∈ c.history actions) (asks : turn.action.request? = some r) :
    r.question ∈ questions actions :=
  List.mem_map_of_mem (List.mem_filterMap.mpr ⟨turn.action, action_mem_of_mem_history member, asks⟩)

/-- What the answer to an ECDSA check is worth, after some turns. -/
structure EcdsaAnswer (turns : List Turn) (r : Request) (answer : Bool) : Prop where
  /-- What the base checker accepts is accepted. -/
  complete : r.truth = true → answer = true
  /-- Under a key that is a point the answer is the base checker's. -/
  sound : r.question.HasPoint → answer = r.truth
  /-- Behind a wrong answer stands a stored check of which this one is a recut. -/
  recut : answer ≠ r.truth → ∃ turn ∈ turns, ∃ stored, turn.Stores stored ∧
    Check.Recut stored.question r.question

theorem EcdsaAnswer.truthful (turns : List Turn) (r : Request) : EcdsaAnswer turns r r.truth :=
  ⟨fun accepted => accepted, fun _ => rfl, fun wrong => absurd rfl wrong⟩

/-- The fingerprint of an ECDSA check that entered was stored, for this very check or for one of
which it is a recut: checks that do not collide and have one fingerprint have one input. -/
theorem Entered.of_ecdsa {actions : List Action} {c : Commons σ} {question : Check}
    (entered : Entered (c.history actions) question.fingerprint) (kind : question.isSchnorr = false)
    (collisionless : Collisionless (question :: questions actions)) :
    ∃ turn ∈ c.history actions, ∃ stored, turn.Stores stored ∧
      (stored.question = question ∨ Check.Recut stored.question question) := by
  have same_input {other : Check} (asked : other ∈ questions actions)
      (same : question.fingerprint = other.fingerprint) : other.preimage = question.preimage :=
    (collisionless question List.mem_cons_self other (List.mem_cons_of_mem _ asked) same).symm
  generalize named : question.fingerprint = x at entered
  cases entered with
  | @stored turn r member stores =>
    exact ⟨turn, member, r, stores,
      Check.eq_or_recut_of_preimage_eq (same_input (mem_questions member stores.asks) named)⟩
  | @deferred queueing committing k r waited =>
    have asks : queueing.action.request? = some r := by rw [waited.queues.asks]; rfl
    have asked := mem_questions (waited.order.subset List.mem_cons_self) asks
    have kinds := Check.isSchnorr_eq_of_preimage_eq (same_input asked named)
    rw [waited.queues.kind, kind] at kinds
    cases kinds

/-- A hit is worth as much as any answer. -/
theorem EcdsaAnswer.of_entered {actions : List Action} {c : Commons σ} {r : Request}
    (entered : Entered (c.history actions) r.question.fingerprint)
    (kind : r.question.isSchnorr = false)
    (collisionless : Collisionless (r.question :: questions actions)) :
    EcdsaAnswer (c.history actions) r true := by
  obtain ⟨turn, member, stored, stores, same | recut⟩ := entered.of_ecdsa kind collisionless
  · have accepted : r.truth = true := by
      rw [Request.truth, ← same]
      exact stores.accepted
    exact accepted ▸ truthful _ r
  · exact ⟨fun _ => rfl, fun point => absurd point
      (recut.not_hasPoint (Check.hasPoint_of_isValid stores.accepted)),
      fun _ => ⟨turn, member, stored, stores, recut⟩⟩

/-- Over a cache that began empty, whatever was done before, every ECDSA check is answered,
whichever checker it is made through, and the answer is the base checker's, unless it is a yes to
the recut of a stored check under a key that is no point. -/
theorem ecdsa_answer {c : Commons σ} (empty : c.cache.entries = []) (fresh : ∀ k, c.waiting k = [])
    (actions : List Action) {action : Action} {r : Request} (asks : action.request? = some r)
    (kind : r.question.isSchnorr = false)
    (collisionless : Collisionless (r.question :: questions actions)) :
    ∃ answer, ((c.after actions).perform action).1 = .ok answer ∧ EcdsaAnswer
      (c.history actions) r answer := by
  have step := acted action (c.after actions)
  generalize (c.after actions).perform action = next at step
  cases step with
  | found asks' held =>
    cases asks.symm.trans asks'
    refine ⟨true, rfl, ?_⟩
    rcases mem_cache_after_of_fresh fresh held with old | entered
    · rw [empty] at old
      cases old
    · exact .of_entered entered kind collisionless
  | alone asks' =>
    cases asks.symm.trans asks'
    exact ⟨r.truth, rfl, .truthful _ r⟩
  | passedOn missed passes =>
    rw [Action.operation?_of_ecdsa asks kind] at passes
    cases passes

/-- A stored check is followed by its recut, through a batching checker. -/
theorem ecdsa_answer_after_stored :
    let stored : Request := { Request.sample with question := .ecdsaSample }
    let recut : Request := { Request.sample with question := .recutSample }
    let c := empty 4
    c.cache.entries = [] ∧ (∀ k, c.waiting k = []) ∧
      (Action.batching 0 recut).request? = some recut ∧
      recut.question.isSchnorr = false ∧
      Collisionless (recut.question :: questions [.caching stored]) ∧
      ∃ answer, ((c.after [.caching stored]).perform (.batching 0 recut)).1 = .ok answer ∧
        EcdsaAnswer (c.history [.caching stored]) recut answer := by
  intro stored recut c
  have collisionless : Collisionless (recut.question :: questions [.caching stored]) :=
    Collisionless.of_recut Check.recut_sample
  exact ⟨rfl, fun _ => rfl, rfl, rfl, collisionless,
    ecdsa_answer rfl (fun _ => rfl) [.caching stored] rfl rfl collisionless⟩

/-- Once a check is stored, its recut is answered with yes, and the base checker says no. -/
theorem ecdsa_answer_recut :
    let stored : Request := { Request.sample with question := .ecdsaSample }
    let recut : Request := { Request.sample with question := .recutSample }
    Collisionless [recut.question, stored.question] ∧
      (((empty 4).after [.caching stored]).perform (.caching recut)).1 = .ok true ∧
        recut.truth = false := by
  intro stored recut
  refine ⟨Collisionless.of_recut Check.recut_sample, ?_, Check.isValid_recutSample⟩
  have missed : stored.question.fingerprint ∉ (empty 4).cache.entries := List.not_mem_nil
  have accepted : (stored.question.isValid && stored.store) = true := by
    rw [Bool.and_eq_true]
    exact ⟨Check.isValid_ecdsaSample, rfl⟩
  have held : recut.question.fingerprint ∈ ((empty 4).after [.caching stored]).cache.entries := by
    rw [after, after, perform_caching_of_not_mem missed, CachingChecker.keep, if_pos accepted]
    exact List.mem_singleton.mpr Check.recut_sample.fingerprint_eq.symm
  rw [perform_caching_of_mem held]

end SigValidation.Commons
