import SigValidation.Proofs.Accumulator.OneQueue
import SigValidation.Proofs.Pass.Phases
/-!
# A pass with one queue

A `QueuePass` does in one equation each what a pass does step by step: its batch is one queue, where
every waiting check stands beside its verdict, and its cache is a value. `Follows` says that a pass
is such a pass, and every call keeps it (`Follows.check`, `Follows.finish`). What is said of all
passes over a bounded cache is therefore said of these.
-/
namespace SigValidation

/-- A check that waits is read as its fingerprint and as its own item. -/
def Reading.questions : Reading Check where
  entry := Check.fingerprint
  Stands item t := t.1.item? = some item ∧ t.2 = t.1.isValid
  verdict stands := by rw [stands.2, Check.isValid_of_item? stands.1]

/-- A pass over a bounded cache. Without a queue it does not batch. -/
structure QueuePass where
  queue : Option (OneQueue Check)
  cache : BoundedCache

namespace QueuePass

variable {p : QueuePass} {store : Bool} {question : Check}

def pending (p : QueuePass) : List (Check × Bool) := p.queue.elim [] OneQueue.pending

/-- Whether no batch of the pass has failed yet. -/
def usable (p : QueuePass) : Bool := p.queue.elim true OneQueue.usable

def start (config : Config) (cache : BoundedCache) : QueuePass :=
  ⟨if config.batchSchnorr then some {} else none, cache⟩

def lookup (store : Bool) (question : Check) (p : QueuePass) : Bool × QueuePass :=
  (decide (question.fingerprint ∈ p.cache.entries),
    { p with cache := p.cache.afterGet question.fingerprint (!store) })

def verifyAlone (store : Bool) (question : Check) (p : QueuePass) : Bool × QueuePass :=
  (question.isValid,
    if question.isValid && store then { p with cache := p.cache.insert question.fingerprint }
    else p)

theorem verifyAlone_eq (p : QueuePass) :
    p.verifyAlone store question =
      (question.isValid, { p with cache := CachingChecker.keep store question p.cache }) := by
  unfold verifyAlone CachingChecker.keep
  split <;> rfl

/-- The pass after a call on its queue. The cache holds what was committed meanwhile. -/
def afterQueue (q : OneQueue Check) (next : OneQueue Check) (p : QueuePass) : QueuePass :=
  ⟨some next, putAll ((q.committedSince next).map Check.fingerprint) p.cache⟩

def resolve (store : Bool) (question : Check) (p : QueuePass) : Bool × QueuePass :=
  match p.queue, question with
  | some q, .schnorr .. =>
    let (answer, next) := q.offer maxBatchSize question question
    (answer, p.afterQueue q next)
  | _, _ => p.verifyAlone store question

def check (store : Bool) (question : Check) (p : QueuePass) : Bool × QueuePass :=
  let (found, next) := p.lookup store question
  if found then (true, next) else next.resolve store question

/-- The verdict on the pass and the cache that is left. -/
def finish (p : QueuePass) : Except PassError Unit × BoundedCache :=
  match p.queue with
  | some q =>
    (if q.verify.1 then .ok () else .error (.invalidBatch q.pending.length),
      (p.afterQueue q q.verify.2).cache)
  | none => (.ok (), p.cache)

theorem afterQueue_of_same {q next : OneQueue Check} (same : next.committed = q.committed) :
    p.afterQueue q next = { p with queue := some next } := by
  rw [afterQueue, OneQueue.committedSince_eq_nil same]
  rfl

theorem afterQueue_of_committed {q next : OneQueue Check}
    (all : next.committed = q.committed ++ q.pending.map Prod.fst) :
    p.afterQueue q next = ⟨some next, putAll (q.pending.map fun t => t.1.fingerprint) p.cache⟩ := by
  rw [afterQueue, OneQueue.committedSince_append all, List.map_map]
  rfl

@[simp] theorem pending_start (config : Config) (cache : BoundedCache) :
    (start config cache).pending = [] := by
  unfold start
  split <;> rfl

@[simp] theorem usable_start (config : Config) (cache : BoundedCache) :
    (start config cache).usable = true := by
  unfold start
  split <;> rfl

theorem pending_push {q : OneQueue Check} (held : p.queue = some q) (question : Check)
    (valid : Bool) :
    QueuePass.pending
      { p with queue := some (q.push question valid) } = p.pending ++ [(question, valid)] := by
  rw [pending, pending, held]
  rfl

theorem mem_pending_push {q : OneQueue Check} (held : p.queue = some q) {question : Check}
    {valid : Bool} {t : Check × Bool}
    (waits : t ∈ QueuePass.pending { p with queue := some (q.push question valid) }) :
    t ∈ p.pending ∨ t = (question, valid) := by
  rw [pending_push held] at waits
  exact (List.mem_append.mp waits).imp_right List.mem_singleton.mp

theorem usable_push {q : OneQueue Check} (held : p.queue = some q) (question : Check)
    (valid : Bool) :
    QueuePass.usable { p with queue := some (q.push question valid) } = p.usable := by
  rw [usable, usable, held]
  rfl

theorem pending_fail {q : OneQueue Check} (held : p.queue = some q) :
    QueuePass.pending { p with queue := some { q with usable := false } } = p.pending := by
  rw [pending, pending, held]
  rfl

/-- What a flush adds to the cache waited and is valid. -/
theorem mem_of_mem_flushed (sound : p.pending.all Prod.snd = true) {x : Fingerprint}
    (held : x ∈ (putAll (p.pending.map fun t => t.1.fingerprint) p.cache).entries) :
    x ∈ p.cache.entries ∨ ∃ t ∈ p.pending, t.2 = true ∧ t.1.fingerprint = x := by
  rcases BoundedCache.mem_of_mem_putAll held with committed | old
  · obtain ⟨t, waited, named⟩ := List.mem_map.mp committed
    exact Or.inr ⟨t, waited, List.all_eq_true.mp sound t waited, named⟩
  · exact Or.inl old

/-- All that resolving a check can come to. -/
inductive Resolved (store : Bool) (question : Check) (p : QueuePass) : Bool × QueuePass → Prop where
  | alone (undeferred : p.queue = none ∨ question.isSchnorr = false) :
      Resolved store question p (p.verifyAlone store question)
  | malformed (kind : question.isSchnorr = true) (unread : question.item? = none) :
      Resolved store question p (false, p)
  | unusable (unusable : p.usable = false) : Resolved store question p (false, p)
  | queued {q : OneQueue Check} {item : BatchItem} (held : p.queue = some q)
      (read : question.item? = some item)
      (usable : p.usable = true) :
      Resolved store question p (true, { p with queue := some (q.push question question.isValid) })
  | flushed {q : OneQueue Check} {item : BatchItem} {committed : List Check}
      (held : p.queue = some q)
      (read : question.item? = some item) (usable : p.usable = true)
        (sound : p.pending.all Prod.snd = true) :
      Resolved store question p
        (true, ⟨some ⟨[(question, question.isValid)], committed, true⟩,
          putAll (p.pending.map fun t => t.1.fingerprint) p.cache⟩)
  | failed {q : OneQueue Check} (held : p.queue = some q)
      (unsound : p.pending.all Prod.snd = false) :
      Resolved store question p (false, { p with queue := some { q with usable := false } })

/-- With a queue, a Schnorr check is offered to it. -/
theorem resolve_schnorr {q : OneQueue Check} (held : p.queue = some q)
    (kind : question.isSchnorr = true) :
    p.resolve store question =
      ((q.offer maxBatchSize question question).1,
        p.afterQueue q (q.offer maxBatchSize question question).2) := by
  obtain ⟨queue, cache⟩ := p
  cases held
  cases question with
  | ecdsa => cases kind
  | schnorr => rfl

/-- Without a queue, and for ECDSA, the cryptography answers. -/
theorem resolve_undeferred (undeferred : p.queue = none ∨ question.isSchnorr = false) :
    p.resolve store question = p.verifyAlone store question := by
  obtain ⟨queue, cache⟩ := p
  rcases undeferred with immediate | other
  · cases immediate
    rfl
  · cases question with
    | schnorr => cases other
    | ecdsa => cases queue <;> rfl

/-- Every check that is resolved meets one of these cases. -/
theorem resolved (store : Bool) (question : Check) (p : QueuePass) :
    Resolved store question p (p.resolve store question) := by
  obtain ⟨queue, cache⟩ := p
  cases queue with
  | none => exact .alone (Or.inl rfl)
  | some q =>
    cases question with
    | ecdsa signature key sighash => exact .alone (Or.inr rfl)
    | schnorr signature key sighash =>
      have offered := q.offered maxBatchSize (.schnorr signature key sighash)
        (Check.schnorr signature key sighash)
      rw [resolve_schnorr rfl rfl]
      generalize q.offer maxBatchSize (.schnorr signature key sighash)
        (Check.schnorr signature key sighash) = next
        at offered
      cases offered with
      | malformed unread =>
        rw [afterQueue_of_same rfl]
        exact .malformed rfl unread
      | unusable unusable =>
        rw [afterQueue_of_same rfl]
        exact .unusable unusable
      | queued read usable room =>
        rw [afterQueue_of_same]
        · exact .queued rfl read usable
        · rfl
      | flushed read usable full sound =>
        rw [afterQueue_of_committed rfl]
        exact .flushed rfl read usable sound
      | failed read usable full unsound =>
        rw [afterQueue_of_same]
        · exact .failed rfl unsound
        · rfl

theorem finish_batching (q : OneQueue Check) (cache : BoundedCache) :
    (QueuePass.mk (some q) cache).finish =
      (if q.verify.1 then .ok () else .error (.invalidBatch q.pending.length),
        (afterQueue q q.verify.2 ⟨some q, cache⟩).cache) := rfl

/-- A pass ends well if no batch failed and all that waits is valid. Only then is what waits
committed. -/
theorem finish_eq (p : QueuePass) :
    p.finish =
      if p.usable = true ∧ p.pending.all Prod.snd = true then
        (.ok (), putAll (p.pending.map fun t => t.1.fingerprint) p.cache)
      else (.error (.invalidBatch p.pending.length), p.cache) := by
  obtain ⟨queue, cache⟩ := p
  cases queue with
  | none => rfl
  | some q =>
    rw [finish_batching]
    change _ = if q.usable = true ∧ q.allValid = true then _ else _
    cases usable : q.usable with
    | false =>
      rw [OneQueue.verify_unusable usable, afterQueue_of_same rfl]
      rfl
    | true =>
      cases sound : q.allValid with
      | false =>
        rw [OneQueue.verify_invalid usable sound, afterQueue_of_same] <;> rfl
      | true =>
        rw [OneQueue.verify_valid usable sound, afterQueue_of_committed rfl]
        rfl

/-- The verdict is good exactly if no batch has failed and all that waits is valid. -/
theorem finish_ok_iff (p : QueuePass) :
    p.finish.1 = .ok () ↔ p.usable = true ∧ p.pending.all Prod.snd = true := by
  rw [finish_eq]
  split
  · rename_i good
    exact iff_of_true rfl good
  · rename_i bad
    exact iff_of_false (fun good => by cases good) bad

theorem lookup_of_mem (held : question.fingerprint ∈ p.cache.entries) :
    p.lookup store question =
      (true, { p with cache := p.cache.afterGet question.fingerprint (!store) }) := by
  rw [lookup, decide_eq_true held]

/-- Looking for what is not there changes nothing. -/
theorem lookup_of_not_mem (missed : question.fingerprint ∉ p.cache.entries) :
    p.lookup store question = (false, p) := by
  rw [lookup, decide_eq_false missed, BoundedCache.afterGet_of_not_mem missed]

theorem check_of_mem (held : question.fingerprint ∈ p.cache.entries) :
    p.check store question =
      (true, { p with cache := p.cache.afterGet question.fingerprint (!store) }) := by
  rw [check, lookup_of_mem held]
  rfl

theorem check_of_not_mem (missed : question.fingerprint ∉ p.cache.entries) :
    p.check store question = p.resolve store question := by
  rw [check, lookup_of_not_mem missed]
  rfl

/-- With room in the queue, a check that a batch takes and the cache does not hold is queued. -/
theorem check_queued {q : OneQueue Check} {item : BatchItem} (held : p.queue = some q)
    (missed : question.fingerprint ∉ p.cache.entries) (read : question.item? = some item)
    (usable : q.usable = true) (room : q.pending.length ≠ maxBatchSize) :
    p.check store question =
      (true, { p with queue := some (q.push question question.isValid) }) := by
  rw [check_of_not_mem missed, resolve_schnorr held (Check.isSchnorr_of_item? read),
    OneQueue.offer_room read usable room, afterQueue_of_same]
  rfl

section Samples

variable {q : OneQueue Check} (held : p.queue = some q) (usable : q.usable = true)
  (room : q.pending.length ≠ maxBatchSize)

include held usable room

theorem check_sample (missed : Check.sample.fingerprint ∉ p.cache.entries) :
    p.check store .sample = (true, { p with queue := some (q.push .sample true) }) := by
  obtain ⟨item, read⟩ := Check.exists_item?_of_isValid rfl Check.isValid_sample
  rw [check_queued held missed read usable room, Check.isValid_sample]

theorem check_forged (missed : Check.forged.fingerprint ∉ p.cache.entries) :
    p.check store .forged = (true, { p with queue := some (q.push .forged false) }) := by
  obtain ⟨item, read⟩ := Check.exists_item?_forged
  rw [check_queued held missed read usable room, Check.isValid_forged]

end Samples

/-- A pass that does not batch never begins to. -/
theorem queue_check_eq_none (immediate : p.queue = none) :
    (p.check store question).2.queue = none := by
  by_cases held : question.fingerprint ∈ p.cache.entries
  · rw [check_of_mem held]
    exact immediate
  · rw [check_of_not_mem held, resolve_undeferred (Or.inl immediate), verifyAlone_eq]
    exact immediate

end QueuePass

namespace Pass

variable {κ α : Type}

theorem yields_onCache {r : Routine Notice κ α} {pass : Pass κ} {a : α} {cache : κ}
    (h : r.Yields pass.cache a cache) : (onCache r).Yields pass a { pass with cache } :=
  Routine.Yields.onPart h

theorem yields_onWorkspace {accumulator : Accumulator BatchContext}
    {r : Routine Event (Workspace BatchContext κ) α} {pass : Pass κ} {a : α}
    {w : Workspace BatchContext κ} (h : r.Yields ⟨accumulator, pass.cache⟩ a w) :
    (onWorkspace accumulator r).Yields pass a ⟨some w.accumulator, w.cache⟩ :=
  Routine.Yields.onPart h

theorem yields_noteHit (noting pass : Pass κ) (question : Check) :
    (noting.noteHit question).Yields pass () pass := by
  unfold noteHit
  split
  · exact (Routine.yields_emit _ _).bind (Routine.yields_emit _ _)
  · exact Routine.yields_pure () pass

/-- Looking a check up finds what the cache finds. -/
theorem yields_lookup [SignatureCache κ] (base : BaseChecker) {store found : Bool}
    {question : Check} {pass : Pass κ} {cache : κ}
    (get : (SignatureCache.get question.fingerprint (!store)).Yields pass.cache found cache) :
    (lookup base store question).Yields pass found { pass with cache } := by
  have looked : (CachingChecker.lookup ⟨base,
    store⟩ question.fingerprint).Yields pass.cache found cache := get
  apply (Routine.yields_state pass).bind
  apply (yields_onCache looked).bind
  cases found with
  | true => exact (yields_noteHit _ _ _).bind (Routine.yields_pure true _)
  | false => exact Routine.yields_pure false _

/-- A check that is not deferred is resolved on the cache alone. -/
theorem yields_resolve_undeferred [SignatureCache κ] {base : BaseChecker} {store answer : Bool}
    {question : Check} {pass : Pass κ} {cache : κ}
    (undeferred : pass.batch = none ∨ question.isSchnorr = false)
    (step : (CachingChecker.resolve ⟨base, store⟩ question).Yields pass.cache answer cache) :
    (resolve base store question).Yields pass answer { pass with cache } := by
  have alone := yields_onCache step
  obtain ⟨batch, before⟩ := pass
  rcases undeferred with immediate | other
  · cases immediate
    exact (Routine.yields_state _).bind alone
  · cases question with
    | schnorr => cases other
    | ecdsa => cases batch <;> exact (Routine.yields_state _).bind alone

section Tracked

variable [SignatureCache κ] [CalmCache κ] {a : Accumulator BatchContext} {q : OneQueue Check}

/-- Resolving a Schnorr check in a batching pass is offering it to the queue, with the check itself
for a label. -/
theorem yields_resolve_tracked (tracks : Tracks .questions a q) (base : BaseChecker) (store : Bool)
    (question : Check) (kind : question.isSchnorr = true) (cache : κ) :
    ∃ after,
      (resolve base store question).Yields ⟨some a, cache⟩ (q.offer a.capacity question question).1
        ⟨some after,
          putAll
            ((q.committedSince (q.offer a.capacity question question).2).map Check.fingerprint)
              cache⟩ ∧
      Tracks .questions after
        (q.offer a.capacity question question).2 ∧ after.capacity = a.capacity := by
  cases question with
  | ecdsa => cases kind
  | schnorr signature key sighash =>
    obtain ⟨after, step, tracking, same⟩ := tracks.offer (.schnorr signature key sighash)
      (fun item read => ⟨read, (Check.isValid_of_item? read).symm⟩) cache
    have worked : (onWorkspace a _).Yields (Pass.mk (some a) cache) _ _ := yields_onWorkspace step
    exact ⟨after, (Routine.yields_state _).bind worked, tracking, same⟩

/-- Settling a batching pass is verifying the queue. -/
theorem yields_settle_tracked (tracks : Tracks .questions a q) (cache : κ) :
    ∃ after, settle.Yields ⟨some a, cache⟩
      (if q.verify.1 then .ok () else .error (.invalidBatch q.pending.length))
      ⟨some after, putAll ((q.committedSince q.verify.2).map Check.fingerprint) cache⟩ := by
  obtain ⟨after, step, _, _⟩ := tracks.verify cache
  refine ⟨after, ?_⟩
  apply (Routine.yields_state _).bind
  apply (Routine.yields_emit _ _).bind
  dsimp only
  rw [tracks.pendingCount]
  apply (yields_onWorkspace step).bind
  cases q.verify.1 with
  | false => exact Routine.yields_pure _ _
  | true => exact (Routine.yields_emit _ _).bind (Routine.yields_pure _ _)

end Tracked

end Pass

/-- The pass is the one with a queue. -/
inductive Follows : Pass BoundedCache → QueuePass → Prop where
  | immediate (cache : BoundedCache) : Follows ⟨none, cache⟩ ⟨none, cache⟩
  | batching {a : Accumulator BatchContext} {q : OneQueue Check} (cache : BoundedCache)
      (tracks : Tracks .questions a q)
      (capacity : a.capacity = maxBatchSize) : Follows ⟨some a, cache⟩ ⟨some q, cache⟩

namespace Follows

variable {pass : Pass BoundedCache} {p : QueuePass}

theorem start (config : Config) (cache : BoundedCache) :
    Follows (Pass.start config cache) (QueuePass.start config cache) := by
  unfold Pass.start QueuePass.start
  split
  · exact .batching cache (Tracks.fresh _) rfl
  · exact .immediate cache

theorem same_cache (h : Follows pass p) : pass.cache = p.cache := by
  cases h <;> rfl

theorem pendingCount (h : Follows pass p) : pass.pendingCount = .ok p.pending.length := by
  cases h with
  | immediate => rfl
  | batching _ tracks _ => exact tracks.pendingCount

theorem batch_eq_none (h : Follows pass p) (immediate : p.queue = none) : pass.batch = none := by
  cases h with
  | immediate => rfl
  | batching => cases immediate

theorem withCache (h : Follows pass p) (cache : BoundedCache) :
    Follows { pass with cache } { p with cache } := by
  cases h with
  | immediate => exact .immediate cache
  | batching _ tracks capacity => exact .batching cache tracks capacity

theorem lookup (h : Follows pass p) (base : BaseChecker) (store : Bool) (question : Check) :
    ∃ after, (Pass.lookup base store question).Yields pass (p.lookup store question).1 after ∧
      Follows after (p.lookup store question).2 := by
  have get : (SignatureCache.get question.fingerprint (!store)).Yields pass.cache _ _ :=
    BoundedCache.yields_get question.fingerprint (!store) pass.cache
  refine ⟨_, ?_, h.withCache _⟩
  rw [QueuePass.lookup, ← h.same_cache]
  exact Pass.yields_lookup base get

theorem resolve (h : Follows pass p) (base : BaseChecker) (store : Bool) (question : Check) :
    ∃ after, (Pass.resolve base store question).Yields pass (p.resolve store question).1 after ∧
      Follows after (p.resolve store question).2 := by
  by_cases undeferred : p.queue = none ∨ question.isSchnorr = false
  · have step := Pass.yields_resolve_undeferred (undeferred.imp_left h.batch_eq_none)
      (CachingChecker.yields_resolve base store question pass.cache)
    rw [QueuePass.resolve_undeferred undeferred, QueuePass.verifyAlone_eq, ← h.same_cache]
    exact ⟨_, step, h.withCache _⟩
  · obtain ⟨batching, kind⟩ := not_or.mp undeferred
    rw [Bool.not_eq_false] at kind
    cases h with
    | immediate => exact absurd rfl batching
    | @batching a q cache tracks capacity =>
      obtain ⟨after, step, tracking, same⟩ :=
        Pass.yields_resolve_tracked tracks base store question kind cache
      rw [capacity] at step tracking same
      rw [QueuePass.resolve_schnorr rfl kind]
      exact ⟨_, step, .batching _ tracking same⟩

/-- A check is answered alike, and leaves passes that are alike. -/
theorem check (h : Follows pass p) (base : BaseChecker) (store : Bool) (question : Check) :
    ∃ after, (Pass.check base store question).Yields pass (p.check store question).1 after ∧
      Follows after (p.check store question).2 := by
  obtain ⟨next, looked, following⟩ := h.lookup base store question
  by_cases held : question.fingerprint ∈ p.cache.entries
  · rw [QueuePass.lookup_of_mem held] at looked following
    rw [QueuePass.check_of_mem held]
    exact ⟨next, Pass.yields_check_of_found looked, following⟩
  · rw [QueuePass.lookup_of_not_mem held] at looked following
    rw [QueuePass.check_of_not_mem held]
    obtain ⟨after, resolved, follows⟩ := following.resolve base store question
    exact ⟨after, Pass.yields_check_of_missed looked resolved, follows⟩

/-- Both passes end with one verdict and leave one cache. -/
theorem finish (h : Follows pass p) :
    pass.finish.outcome = .ok p.finish.1 ∧ pass.finish.state = p.finish.2 := by
  suffices settled : ∃ after, Pass.settle.Yields pass p.finish.1 after ∧ after.cache = p.finish.2 by
    obtain ⟨after, settled, cache⟩ := settled
    refine ⟨settled.outcome_eq, ?_⟩
    rw [← cache, ← settled.state_eq]
    rfl
  cases h with
  | immediate cache =>
    refine ⟨⟨none, cache⟩, ?_, rfl⟩
    apply (Routine.yields_state _).bind
    exact (Routine.yields_emit _ _).bind (Routine.yields_pure _ _)
  | @batching a q cache tracks capacity =>
    obtain ⟨after, step⟩ := Pass.yields_settle_tracked tracks cache
    exact ⟨_, step, rfl⟩

end Follows

end SigValidation
