import SigValidation.Proofs.Check.Recut
import SigValidation.Proofs.Pass.Verdict
/-!
# ECDSA and Schnorr checks do not interfere

The checks of both kinds that are made through one pass share its cache. Their fingerprints differ,
though, so that what a check of one kind looks up, erases, stores or, later, commits is nothing that
a check of the other kind asks for; and an ECDSA check never touches the queue. `Accord` relates a
pass to one through which only the checks of one kind are made: a check of that kind is answered
alike in both, and a check of the other kind leaves the relation as it is (`Accord.check`,
`Accord.check_other`).
-/
namespace SigValidation

open BoundedCache

/-- Checks of different kinds have different fingerprints. -/
theorem Collisionless.fingerprint_ne {asked : List Check} (collisionless : Collisionless asked)
    {c d : Check} (member : c ∈ asked) (member' : d ∈ asked) (kinds : c.isSchnorr ≠ d.isSchnorr) :
    c.fingerprint ≠ d.fingerprint :=
  fun same => kinds (Check.isSchnorr_eq_of_preimage_eq (collisionless c member d member' same))

namespace OneQueue

variable {ι : Type} {q : OneQueue ι} {capacity : Nat} {question : Check} {label : ι}

/-- What a call commits was waiting. -/
theorem committedSince_offer_subset :
    q.committedSince (q.offer capacity question label).2 ⊆ q.pending.map Prod.fst := by
  have offered := q.offered capacity question label
  generalize q.offer capacity question label = next at offered
  cases offered with
  | flushed =>
    rw [committedSince_append rfl]
    exact List.Subset.refl _
  | malformed | unusable | queued | failed => simp [committedSince, push]

theorem mem_pending_offer {t : ι × Bool} (waits : t ∈ (q.offer capacity question label).2.pending) :
    t ∈ q.pending ∨ t.1 = label := by
  have offered := q.offered capacity question label
  generalize q.offer capacity question label = next at offered waits
  cases offered with
  | queued =>
    exact (List.mem_append.mp waits).imp_right fun new =>
      congrArg Prod.fst (List.mem_singleton.mp new)
  | flushed => exact Or.inr (congrArg Prod.fst (List.mem_singleton.mp waits))
  | malformed | unusable | failed => exact Or.inl waits

end OneQueue

/-- What resolving a check comes to beside the cache: the answer, the queue afterwards and the
entries that are set. -/
structure Resolution where
  answer : Bool
  queue : Option (OneQueue Check)
  sets : List Fingerprint

namespace QueuePass

variable {p : QueuePass} {store : Bool} {c : Check} {queue : Option (OneQueue Check)}

def resolution (store : Bool) (c : Check) (queue : Option (OneQueue Check)) : Resolution :=
  match queue, c with
  | some q, .schnorr .. =>
    let (answer, next) := q.offer maxBatchSize c c
    ⟨answer, some next, (q.committedSince next).map Check.fingerprint⟩
  | _, _ => ⟨c.isValid, queue, if c.isValid && store then [c.fingerprint] else []⟩

theorem resolution_undeferred (undeferred : queue = none ∨ c.isSchnorr = false) :
    resolution store c queue = ⟨c.isValid, queue,
      if c.isValid && store then [c.fingerprint] else []⟩ := by
  rcases undeferred with immediate | other
  · rw [immediate]
    rfl
  · cases c with
    | schnorr => cases other
    | ecdsa => cases queue <;> rfl

theorem resolution_schnorr {q : OneQueue Check} (kind : c.isSchnorr = true) :
    resolution store c (some q) =
      ⟨(q.offer maxBatchSize c c).1, some (q.offer maxBatchSize c c).2,
        (q.committedSince (q.offer maxBatchSize c c).2).map Check.fingerprint⟩ := by
  cases c with
  | ecdsa => cases kind
  | schnorr => rfl

/-- When a check is resolved the cache is written and never read. -/
theorem resolve_eq (store : Bool) (c : Check) (p : QueuePass) :
    p.resolve store c =
      ((resolution store c p.queue).answer,
        ⟨(resolution store c p.queue).queue,
          putAll (resolution store c p.queue).sets p.cache⟩) := by
  have alone : p.verifyAlone store c =
      (c.isValid,
        ⟨p.queue, putAll (if c.isValid && store then [c.fingerprint] else []) p.cache⟩) := by
    unfold verifyAlone
    split <;> simp [putAll]
  cases kind : c.isSchnorr with
  | false => rw [resolution_undeferred (Or.inr kind), resolve_undeferred (Or.inr kind), alone]
  | true =>
    cases held : p.queue with
    | none => rw [resolution_undeferred (Or.inl rfl), resolve_undeferred (Or.inl held), alone, held]
    | some q =>
      rw [resolution_schnorr kind, resolve_schnorr held kind]
      rfl

/-- The verdict at the end does not depend on the cache. -/
theorem finish_fst_eq {r : QueuePass} (same : p.queue = r.queue) : p.finish.1 = r.finish.1 := by
  rw [finish_eq, finish_eq, pending, pending, usable, usable, same]
  split <;> rfl

end QueuePass

/-- What holds of a pass, begun with the cache `start`, in which some of the checks were made. -/
structure Proper (start : BoundedCache) (asked : List Check) (p : QueuePass) : Prop where
  within : Within (asked.map Check.fingerprint) start p.cache
  waiting : ∀ t ∈ p.pending, t.1 ∈ asked ∧ t.1.isSchnorr = true

namespace Proper

variable {start : BoundedCache} {asked : List Check} {p : QueuePass} {store : Bool} {c : Check}

theorem begin (config : Config) (start : BoundedCache) (asked : List Check) :
    Proper start asked (.start config start) where
  within := .refl _ start
  waiting := by simp

/-- All entries that are set when a check is resolved are fingerprints of checks of its kind. -/
theorem sets_of_kind (h : Proper start asked p) (member : c ∈ asked) {x : Fingerprint}
    (set : x ∈ (QueuePass.resolution store c p.queue).sets) :
    ∃ d ∈ asked, d.isSchnorr = c.isSchnorr ∧ d.fingerprint = x := by
  have own (undeferred : p.queue = none ∨ c.isSchnorr = false) : x = c.fingerprint := by
    rw [QueuePass.resolution_undeferred undeferred] at set
    dsimp only at set
    split at set
    · exact List.mem_singleton.mp set
    · cases set
  cases kind : c.isSchnorr with
  | false => exact ⟨c, member, kind, (own (Or.inr kind)).symm⟩
  | true =>
    cases held : p.queue with
    | none => exact ⟨c, member, kind, (own (Or.inl held)).symm⟩
    | some q =>
      rw [held, QueuePass.resolution_schnorr kind] at set
      obtain ⟨d, committed, named⟩ := List.mem_map.mp set
      obtain ⟨t, waits, rfl⟩ := List.mem_map.mp (OneQueue.committedSince_offer_subset committed)
      have pending : t ∈ p.pending := by
        rw [QueuePass.pending, held]
        exact waits
      exact ⟨t.1, (h.waiting t pending).1, (h.waiting t pending).2, named⟩

theorem sets_subset (h : Proper start asked p) (store : Bool) (member : c ∈ asked) :
    (QueuePass.resolution store c p.queue).sets ⊆ asked.map Check.fingerprint := by
  intro x set
  obtain ⟨d, asked_too, _, rfl⟩ := h.sets_of_kind member set
  exact List.mem_map_of_mem asked_too

/-- Resolving a check sets only what was asked, so that the cache keeps its room. -/
theorem resolve (h : Proper start asked p) (room : start.HasRoomFor (asked.map Check.fingerprint))
    (member : c ∈ asked) : Proper start asked (p.resolve store c).2 := by
  rw [QueuePass.resolve_eq]
  refine ⟨h.within.putAll room (h.sets_subset store member), fun t waits => ?_⟩
  by_cases undeferred : p.queue = none ∨ c.isSchnorr = false
  · rw [QueuePass.resolution_undeferred undeferred] at waits
    exact h.waiting t waits
  · obtain ⟨batching, kind⟩ := not_or.mp undeferred
    rw [Bool.not_eq_false] at kind
    obtain ⟨q, held⟩ := Option.ne_none_iff_exists'.mp batching
    rw [held, QueuePass.resolution_schnorr kind] at waits
    rcases OneQueue.mem_pending_offer waits with old | new
    · refine h.waiting t ?_
      rw [QueuePass.pending, held]
      exact old
    · rw [new]
      exact ⟨member, kind⟩

theorem check (h : Proper start asked p) (room : start.HasRoomFor (asked.map Check.fingerprint))
    (member : c ∈ asked) : Proper start asked (p.check store c).2 := by
  by_cases held : c.fingerprint ∈ p.cache.entries
  · rw [QueuePass.check_of_mem held]
    exact ⟨h.within.afterGet _ _, h.waiting⟩
  · rw [QueuePass.check_of_not_mem held]
    exact h.resolve room member

end Proper

/-- The passes hold the checks of one kind alike, in their caches and, if these are the Schnorr
checks, in their queues. -/
structure Accord (asked : List Check) (schnorr : Bool) (p r : QueuePass) : Prop where
  alike : ∀ c ∈ asked, c.isSchnorr = schnorr →
    p.cache.entries.count c.fingerprint = r.cache.entries.count c.fingerprint
  queue : schnorr = true → p.queue = r.queue

namespace Accord

variable {start : BoundedCache} {asked : List Check} {schnorr : Bool} {p r : QueuePass} {c : Check}

theorem refl (asked : List Check) (schnorr : Bool) (p : QueuePass) : Accord asked schnorr p p where
  alike _ _ _ := rfl
  queue _ := rfl

theorem mem_iff (h : Accord asked schnorr p r) (member : c ∈ asked) (kind : c.isSchnorr = schnorr) :
    c.fingerprint ∈ p.cache.entries ↔ c.fingerprint ∈ r.cache.entries := by
  rw [← List.count_pos_iff, ← List.count_pos_iff, h.alike c member kind]

theorem pending_eq (h : Accord asked schnorr p r) (deferred : schnorr = true) :
    p.pending = r.pending := by
  rw [QueuePass.pending, QueuePass.pending, h.queue deferred]

/-- A check of the kind is resolved alike. -/
theorem resolution_eq (h : Accord asked schnorr p r) (store : Bool) (kind : c.isSchnorr = schnorr) :
    (QueuePass.resolution store c p.queue).answer = (QueuePass.resolution store c r.queue).answer ∧
      (QueuePass.resolution store c p.queue).sets =
        (QueuePass.resolution store c r.queue).sets := by
  cases schnorr with
  | true =>
    rw [h.queue rfl]
    exact ⟨rfl, rfl⟩
  | false =>
    rw [QueuePass.resolution_undeferred (Or.inr kind),
      QueuePass.resolution_undeferred (Or.inr kind)]
    exact ⟨rfl, rfl⟩

section Step

variable (h : Accord asked schnorr p r) (proper : Proper start asked p)
  (room : start.HasRoomFor (asked.map Check.fingerprint)) (member : c ∈ asked)

include h proper room member

/-- A check of the kind is answered alike through both passes. -/
theorem check (store : Bool) (proper' : Proper start asked r) (kind : c.isSchnorr = schnorr) :
    (p.check store c).1 =
      (r.check store c).1 ∧ Accord asked schnorr (p.check store c).2 (r.check store c).2 := by
  by_cases held : c.fingerprint ∈ p.cache.entries
  · rw [QueuePass.check_of_mem held, QueuePass.check_of_mem ((h.mem_iff member kind).mp held)]
    refine ⟨rfl, fun d asked_too other => ?_, h.queue⟩
    rw [count_afterGet, count_afterGet, h.alike d asked_too other]
  · have missed := fun found => held ((h.mem_iff member kind).mpr found)
    obtain ⟨answers, sets⟩ := h.resolution_eq store kind
    rw [QueuePass.check_of_not_mem held, QueuePass.check_of_not_mem missed,
      QueuePass.resolve_eq, QueuePass.resolve_eq]
    refine ⟨answers, fun d asked_too other => ?_, fun deferred => ?_⟩
    · have members := proper.sets_subset store member
      rw [← sets]
      exact proper.within.count_putAll_congr proper'.within room members (h.alike d asked_too other)
    · rw [h.queue deferred]

/-- A check of the other kind is nothing to the pass through which only the checks of the one kind
are made. -/
theorem check_other (store : Bool) (collisionless : Collisionless asked)
    (kind : c.isSchnorr ≠ schnorr) : Accord asked schnorr (p.check store c).2 r := by
  have differ {d : Check} (asked_too : d ∈ asked)
    (other : d.isSchnorr = schnorr) : d.fingerprint ≠ c.fingerprint :=
    collisionless.fingerprint_ne asked_too member fun same => kind (same.symm.trans other)
  by_cases held : c.fingerprint ∈ p.cache.entries
  · rw [QueuePass.check_of_mem held]
    refine ⟨fun d asked_too other => ?_, h.queue⟩
    rw [count_afterGet, if_neg fun erased => differ asked_too other erased.2]
    exact h.alike d asked_too other
  · rw [QueuePass.check_of_not_mem held, QueuePass.resolve_eq]
    refine ⟨fun d asked_too other => ?_, fun deferred => ?_⟩
    · have apart : d.fingerprint ∉ (QueuePass.resolution store c p.queue).sets := by
        intro set
        obtain ⟨e, asked_as_well, kinds, named⟩ := proper.sets_of_kind member set
        refine collisionless.fingerprint_ne asked_as_well asked_too (fun same => kind ?_) named
        rw [← kinds, same, other]
      exact (proper.within.count_putAll_of_not_mem room
        (proper.sets_subset store member) apart).trans
        (h.alike d asked_too other)
    · have ecdsa : c.isSchnorr = false := by
        rw [deferred] at kind
        exact Bool.eq_false_iff.mpr kind
      rw [QueuePass.resolution_undeferred (Or.inr ecdsa)]
      exact h.queue deferred

end Step

end Accord

def Request.isOf (schnorr : Bool) (r : Request) : Bool := r.question.isSchnorr == schnorr

/-- What is seen of one check in a pass. -/
structure Response where
  request : Request
  answer : Except Panic Bool
  /-- How many checks wait after a Schnorr check. -/
  pending : Option (Except Panic Nat)

def Response.isOf (schnorr : Bool) (x : Response) : Bool := x.request.isOf schnorr

def Pass.responses {κ : Type} [SignatureCache κ] : List Request → Pass κ → List Response
  | [], _ => []
  | r :: rest, pass =>
    let reply := (check r.base r.store r.question).run pass
    ⟨r, reply.outcome, if r.question.isSchnorr then some reply.state.pendingCount else none⟩ ::
      responses rest reply.state

def QueuePass.response (r : Request) (p : QueuePass) : Response where
  request := r
  answer := .ok (p.check r.store r.question).1
  pending :=
    if r.question.isSchnorr then some (.ok (p.check r.store r.question).2.pending.length) else none

def QueuePass.responses : List Request → QueuePass → List Response
  | [], _ => []
  | r :: rest, p => p.response r :: responses rest (p.check r.store r.question).2

/-- A pass responds as its queue does. -/
theorem Follows.responses {pass : Pass BoundedCache} {p : QueuePass} (h : Follows pass p)
    (requests : List Request) : Pass.responses requests pass = p.responses requests := by
  induction requests generalizing pass p with
  | nil => rfl
  | cons r rest ih =>
    obtain ⟨next, step, follows⟩ := h.check r.base r.store r.question
    rw [Pass.responses, QueuePass.responses, step.outcome_eq, step.state_eq,
      follows.pendingCount, ih follows]
    rfl

/-- With the other checks left out, the checks of one kind are answered alike. -/
theorem Accord.checkAll {start : BoundedCache} {asked : List Check} {schnorr : Bool}
    {p r : QueuePass} (h : Accord asked schnorr p r) (proper : Proper start asked p)
    (proper' : Proper start asked r) (room : start.HasRoomFor (asked.map Check.fingerprint))
    (collisionless : Collisionless asked) {requests : List Request}
    (members : ∀ a ∈ requests, a.question ∈ asked) :
    (p.responses requests).filter (Response.isOf schnorr) =
        r.responses (requests.filter (Request.isOf schnorr)) ∧
      Accord asked schnorr
        (p.checkAll requests).2 (r.checkAll (requests.filter (Request.isOf schnorr))).2 := by
  induction requests generalizing p r with
  | nil => exact ⟨rfl, h⟩
  | cons a rest ih =>
    have member := members a List.mem_cons_self
    have later := fun other asked_later => members other (List.mem_cons_of_mem a asked_later)
    cases kind : a.isOf schnorr with
    | true =>
      obtain ⟨answers, accord⟩ := h.check proper room member a.store proper' (beq_iff_eq.mp kind)
      obtain ⟨same, ends⟩ := ih accord (proper.check room member) (proper'.check room member) later
      rw [List.filter_cons_of_pos kind]
      refine ⟨?_, ends⟩
      have response : p.response a = r.response a := by
        rw [QueuePass.response, QueuePass.response, answers]
        cases deferred : a.question.isSchnorr with
        | true => rw [accord.pending_eq ((beq_iff_eq.mp kind).symm.trans deferred)]
        | false => rfl
      have counted : (p.response a).isOf schnorr = true := kind
      rw [QueuePass.responses, QueuePass.responses, List.filter_cons_of_pos counted, same, response]
    | false =>
      have accord :=
        h.check_other proper room member a.store collisionless (beq_eq_false_iff_ne.mp kind)
      obtain ⟨same, ends⟩ := ih accord (proper.check room member) proper' later
      rw [Bool.eq_false_iff] at kind
      have left_out : (p.response a).isOf schnorr ≠ true := kind
      rw [List.filter_cons_of_neg kind, QueuePass.responses, List.filter_cons_of_neg left_out]
      exact ⟨same, ends⟩

/-- What some checks through a pass are to those of one kind among them, made through the same pass
without the others. -/
structure Independent (requests : List Request) (pass : Pass BoundedCache) : Prop where
  /-- Every answer to a Schnorr check, and the number of checks that wait after it, are as they are
  without ECDSA checks. -/
  schnorr : (pass.responses requests).filter (Response.isOf true) =
    pass.responses (requests.filter (Request.isOf true))
  /-- Every answer to an ECDSA check is as it is without Schnorr checks. -/
  ecdsa : (pass.responses requests).filter (Response.isOf false) =
    pass.responses (requests.filter (Request.isOf false))
  /-- The pass ends as it does without ECDSA checks. -/
  finish : ((Pass.checkAll requests).run pass).state.finish.outcome =
    ((Pass.checkAll (requests.filter (Request.isOf true))).run pass).state.finish.outcome

/-- For every sequence of checks of both kinds, through checkers that store or not, over every cache
with room for all of them, and where no two fingerprints of the run collide, the checks of one kind
are independent of those of the other, whether the pass batches or not. -/
theorem Pass.kinds_independent (config : Config) (cache : BoundedCache) (requests : List Request)
    (room : cache.HasRoomFor ((requests.map Request.question).map Check.fingerprint))
    (collisionless : Collisionless (requests.map Request.question)) :
    Independent requests (start config cache) := by
  have follows := Follows.start config cache
  have proper := Proper.begin config cache (requests.map Request.question)
  have accords (schnorr : Bool) := (Accord.refl (requests.map Request.question) schnorr
    (QueuePass.start config cache)).checkAll proper proper room collisionless fun r member =>
      List.mem_map_of_mem member
  obtain ⟨whole, run, ends⟩ := follows.checkAll requests
  obtain ⟨part, run', ends'⟩ := follows.checkAll (requests.filter (Request.isOf true))
  constructor
  case schnorr =>
    rw [follows.responses, follows.responses]
    exact (accords true).1
  case ecdsa =>
    rw [follows.responses, follows.responses]
    exact (accords false).1
  case finish =>
    rw [run.state_eq, run'.state_eq,
      ends.finish.1, ends'.finish.1, QueuePass.finish_fst_eq ((accords true).2.queue rfl)]

/-- An ECDSA check that the cache holds is found and erased, and made again after two Schnorr checks
that are queued, of which one is invalid. All four are answered with yes, and the pass fails. -/
theorem Pass.kinds_independent_mixed :
    let request (store : Bool) (question : Check) : Request :=
      { Request.sample with store, question }
    let requests := [request false .ecdsaSample, .sample, .forged, request true .ecdsaSample]
    let cache : BoundedCache := { maxEntries := 5, entries := [Check.ecdsaSample.fingerprint] }
    cache.HasRoomFor ((requests.map Request.question).map Check.fingerprint) ∧
      Collisionless (requests.map Request.question) ∧
      ((start ⟨true, 5⟩ cache).responses requests).map Response.answer =
        List.replicate 4 (.ok true) ∧
      ((start ⟨true, 5⟩ cache).responses requests).map Response.pending =
        [none, some (.ok 1), some (.ok 2), none] ∧
      ((checkAll requests).run (start ⟨true, 5⟩ cache)).state.finish.outcome =
        .ok (.error (.invalidBatch 2)) ∧
      Independent requests (start ⟨true, 5⟩ cache) := by
  intro request requests cache
  have room : cache.HasRoomFor ((requests.map Request.question).map Check.fingerprint) :=
    BoundedCache.HasRoomFor.of_length_le (Nat.le_refl 5)
  have collisionless : Collisionless (requests.map Request.question) :=
    Collisionless.samples.mono (by simp [requests, request, Request.sample, Request.forged])
  have erased : (QueuePass.start ⟨true, 5⟩ cache).check false .ecdsaSample =
      (true, ⟨some {}, { cache with entries := [] }⟩) := by
    rw [QueuePass.check_of_mem (List.mem_singleton_self _)]
    simp [QueuePass.start, cache, BoundedCache.afterGet, swapRemove]
  have queued : QueuePass.check true .sample ⟨some {}, { cache with entries := [] }⟩ =
      (true, ⟨some ⟨[(.sample, true)], [], true⟩, { cache with entries := [] }⟩) :=
    QueuePass.check_sample (q := {}) rfl rfl (by decide) List.not_mem_nil
  have queued_too : QueuePass.check true .forged ⟨some ⟨[(.sample, true)], [], true⟩,
    { cache with entries := [] }⟩ =
      (true, ⟨some ⟨[(.sample, true), (.forged, false)], [], true⟩,
        { cache with entries := [] }⟩) :=
    QueuePass.check_forged (q := ⟨[(.sample, true)], [], true⟩) rfl rfl (by decide) List.not_mem_nil
  have again : QueuePass.check true .ecdsaSample
      ⟨some ⟨[(.sample, true), (.forged, false)], [], true⟩, { cache with entries := [] }⟩ =
      (true, ⟨some ⟨[(.sample, true), (.forged, false)], [], true⟩, cache⟩) := by
    rw [QueuePass.check_of_not_mem List.not_mem_nil, QueuePass.resolve_undeferred (Or.inr rfl),
      QueuePass.verifyAlone_eq, CachingChecker.keep, Check.isValid_ecdsaSample]
    simp [cache, BoundedCache.insert]
  have follows := Follows.start ⟨true, 5⟩ cache
  have responses := follows.responses requests
  obtain ⟨pass, step, ends⟩ := follows.checkAll requests
  rw [step.state_eq, responses, ends.finish.1]
  simp only [requests, request, Request.sample, Request.forged, QueuePass.responses,
    QueuePass.response, QueuePass.checkAll, erased, queued, queued_too, again]
  exact ⟨room, collisionless, rfl, rfl, rfl,
    kinds_independent ⟨true, 5⟩ cache requests room collisionless⟩

end SigValidation
