import SigValidation.Proofs.Check.Recut
import SigValidation.Proofs.Pass.Verdict
/-!
# Where a failure lies

A pass that fails says how many checks were waiting. That number splits the checks that were queued:
those before the last so many are whole batches, were valid, and their entries were set in the
cache; one of the last so many is invalid, and none of their entries was set. It makes no difference
whether the failure comes to light at the end or has come to light before, when a full batch met one
more check, nor how many checks were refused since (`Pass.failure_located`).

Over a logged cache a turn shows what one check has set (`Pass.turn`). The turns of a run add up to
the queue (`Booked`).
-/
namespace SigValidation

namespace OneQueue

/-- What holds of a queue of checks, each its own label, all along: the full batches committed so
far were valid, the verdicts are those of the cryptography, and no failure is forgotten. -/
structure Regular (capacity : Nat) (q : OneQueue Check) : Prop where
  whole : capacity ∣ q.committed.length
  sound : ∀ c ∈ q.committed, c.isValid = true
  verdicts : ∀ t ∈ q.pending, t.2 = t.1.isValid
  failed : q.usable = false → q.allValid = false

namespace Regular

variable {capacity : Nat} {q : OneQueue Check}

theorem empty (capacity : Nat) : Regular capacity {} where
  whole := Nat.dvd_zero _
  sound c member := by cases member
  verdicts t waits := by cases waits
  failed unusable := by cases unusable

theorem isValid_of_allValid (h : Regular capacity q) (sound : q.allValid = true) {c : Check}
    (waiting : c ∈ q.pending.map Prod.fst) : c.isValid = true := by
  obtain ⟨t, waits, rfl⟩ := List.mem_map.mp waiting
  rw [← h.verdicts t waits]
  exact List.all_eq_true.mp sound t waits

/-- A batch that fails holds a check that is not valid. -/
theorem exists_invalid (h : Regular capacity q) (unsound : q.allValid = false) :
    ∃ c ∈ q.pending.map Prod.fst, c.isValid = false := by
  obtain ⟨t, waits, wrong⟩ := List.all_eq_false.mp unsound
  refine ⟨t.1, List.mem_map_of_mem waits, ?_⟩
  rw [← h.verdicts t waits]
  exact Bool.eq_false_iff.mpr wrong

theorem offer (h : Regular capacity q) (c : Check) : Regular capacity (q.offer capacity c c).2 := by
  have offered := q.offered capacity c c
  generalize q.offer capacity c c = next at offered
  cases offered with
  | malformed | unusable => exact h
  | queued read usable room =>
    constructor
    case whole => exact h.whole
    case sound => exact h.sound
    case verdicts =>
      intro t waits
      rcases List.mem_append.mp waits with old | new
      · exact h.verdicts t old
      · cases List.mem_singleton.mp new
        rfl
    case failed =>
      intro unusable
      change q.usable = false at unusable
      rw [usable] at unusable
      cases unusable
  | flushed read usable full sound =>
    constructor
    case whole =>
      rw [List.length_append, List.length_map, full]
      exact Nat.dvd_add h.whole (Nat.dvd_refl _)
    case sound =>
      intro d member
      rcases List.mem_append.mp member with old | waited
      · exact h.sound d old
      · exact h.isValid_of_allValid sound waited
    case verdicts =>
      intro t waits
      cases List.mem_singleton.mp waits
      rfl
    case failed =>
      intro unusable
      cases unusable
  | failed read usable full unsound => exact ⟨h.whole, h.sound, h.verdicts, fun _ => unsound⟩

/-- A verification that fails commits nothing and finds an invalid check waiting. -/
theorem of_verify (h : Regular capacity q) (failed : q.verify.1 = false) :
    q.allValid = false ∧ q.verify.2.committed = q.committed := by
  cases usable : q.usable with
  | false =>
    rw [verify_unusable usable]
    exact ⟨h.failed usable, rfl⟩
  | true =>
    cases sound : q.allValid with
    | false =>
      rw [verify_invalid usable sound]
      exact ⟨rfl, rfl⟩
    | true =>
      rw [verify_valid usable sound] at failed
      cases failed

end Regular

end OneQueue

variable {κ : Type} [SignatureCache κ]

namespace CachingChecker

/-- Over a cache that never panics neither does a checker. -/
theorem exists_resolve [CalmCache κ] (c : CachingChecker) (question : Check) (cache : κ) :
    ∃ answer after, (c.resolve question).Yields cache answer after := by
  unfold resolve
  by_cases stored : (c.base.check question && c.store) = true
  · rw [if_pos stored]
    exact ⟨_, _, (yields_set _ cache).bind (Routine.yields_pure _ _)⟩
  · rw [if_neg stored]
    exact ⟨_, _, (Routine.yields_pure _ cache)⟩

end CachingChecker

/-- What is seen of one check in a pass. -/
structure Turn where
  question : Check
  /-- What looking its fingerprint up comes to. -/
  lookup : Except Panic Bool
  answer : Except Panic Bool
  /-- The entries set in the cache meanwhile, in order. -/
  sets : List Fingerprint

namespace Turn

/-- Whether the check was not found and a batch took it. -/
def isQueued : Turn → Bool
  | ⟨.schnorr .., .ok false, .ok true, _⟩ => true
  | _ => false

theorem isQueued_of_found {question : Check} {answer : Except Panic Bool}
    {sets : List Fingerprint} :
    isQueued ⟨question, .ok true, answer, sets⟩ = false := by
  cases question <;> rfl

theorem isQueued_of_ecdsa {t : Turn} (kind : t.question.isSchnorr = false) :
    t.isQueued = false := by
  obtain ⟨question, _, _, _⟩ := t
  cases question with
  | schnorr => cases kind
  | ecdsa => rfl

theorem isQueued_of_missed {question : Check} {answer : Bool} {sets : List Fingerprint} :
    isQueued ⟨question, .ok false, .ok answer, sets⟩ = (question.isSchnorr && answer) := by
  cases question <;> cases answer <;> rfl

end Turn

def queuedChecks (turns : List Turn) : List Check := (turns.filter Turn.isQueued).map Turn.question

/-- The entries set in turns of Schnorr checks, in order: all of them belong to checks queued
before. -/
def deferredSets (turns : List Turn) : List Fingerprint :=
  (turns.filter fun t => t.question.isSchnorr).flatMap Turn.sets

namespace Pass

def turn (r : Request) (pass : Pass (Logged κ)) : Turn :=
  let reply := (check r.base r.store r.question).run pass
  ⟨r.question, ((lookup r.base r.store r.question).run pass).outcome, reply.outcome,
    reply.state.cache.sets.drop pass.cache.sets.length⟩

def turns : List Request → Pass (Logged κ) → List Turn
  | [], _ => []
  | r :: rest, pass => turn r pass :: turns rest ((check r.base r.store r.question).run pass).state

/-- The entries that finishing a pass sets in the cache. -/
def lateSets (pass : Pass (Logged κ)) : List Fingerprint :=
  pass.finish.state.sets.drop pass.cache.sets.length

end Pass

theorem queuedChecks_append (turns : List Turn) (t : Turn) :
    queuedChecks (turns ++ [t]) =
      queuedChecks turns ++ if t.isQueued then [t.question] else [] := by
  unfold queuedChecks
  cases queued : t.isQueued <;> simp [List.filter_append, queued]

theorem deferredSets_append (turns : List Turn) (t : Turn) :
    deferredSets (turns ++ [t]) =
      deferredSets turns ++ if t.question.isSchnorr then t.sets else [] := by
  unfold deferredSets
  cases kind : t.question.isSchnorr <;> simp [List.filter_append, kind]

/-- Where the failure lies, of a pass that was finished after some turns and says that so many
checks were waiting. -/
structure Located (turns : List Turn) (pass : Pass (Logged κ)) (pending : Nat) : Prop where
  positive : 1 ≤ pending
  le_queued : pending ≤ (queuedChecks turns).length
  le_batch : pending ≤ maxBatchSize
  /-- The checks before are whole batches, -/
  whole : maxBatchSize ∣ (queuedChecks turns).length - pending
  /-- all of them valid, -/
  sound : ∀ c ∈ (queuedChecks turns).take ((queuedChecks turns).length - pending), c.isValid = true
  /-- and their entries were set once for each of them, in their order. No other queued check had
  its entry set. -/
  sets_eq : deferredSets turns ++ pass.lateSets =
    ((queuedChecks turns).take ((queuedChecks turns).length - pending)).map Check.fingerprint
  blamed : ∃ c ∈ (queuedChecks turns).drop ((queuedChecks turns).length - pending),
    c.isValid = false

/-- The turns of a batching pass add up to its queue. -/
structure Booked (past : List Turn) (pass : Pass (Logged κ)) (q : OneQueue Check) : Prop where
  tracked : ∃ a, pass.batch = some a ∧ Tracks .questions a q ∧ a.capacity = maxBatchSize
  regular : q.Regular maxBatchSize
  queued_eq : queuedChecks past = q.labels
  sets_eq : deferredSets past = q.committed.map Check.fingerprint

namespace Booked

variable [CalmCache κ] {past : List Turn} {pass : Pass (Logged κ)} {q : OneQueue Check}
  {r : Request}

omit [SignatureCache κ] [CalmCache κ] in
theorem start (config : Config) (cache : κ) :
    Booked [] (Pass.start { config with batchSchnorr := true } ⟨cache, []⟩) {} where
  tracked := ⟨Pass.newAccumulator, rfl, Tracks.fresh _, rfl⟩
  regular := .empty _
  queued_eq := rfl
  sets_eq := rfl

omit [CalmCache κ] in
/-- A turn is made of what looking up and checking come to. -/
theorem turn_eq {found answer : Bool} {between after : Pass (Logged κ)} {new : List Fingerprint}
    (looked : (Pass.lookup r.base r.store r.question).Yields pass found between)
    (checked : (Pass.check r.base r.store r.question).Yields pass answer after)
    (sets : after.cache.sets = pass.cache.sets ++ new) :
    Pass.turn r pass = ⟨r.question, .ok found, .ok answer, new⟩ := by
  rw [Pass.turn, looked.outcome_eq, checked.outcome_eq, checked.state_eq, sets, List.drop_left]

omit [CalmCache κ] in
/-- A check that no batch has to do with is not booked. -/
theorem pass_by (h : Booked past pass q) {after : Pass (Logged κ)} (same : after.batch = pass.batch)
    (unqueued : (Pass.turn r pass).isQueued = false)
    (unset : r.question.isSchnorr = true → (Pass.turn r pass).sets = []) :
    Booked (past ++ [Pass.turn r pass]) after q where
  tracked := by
    rw [same]
    exact h.tracked
  regular := h.regular
  queued_eq := by simp [queuedChecks_append, unqueued, h.queued_eq]
  sets_eq := by
    have none_set : (if (Pass.turn r pass).question.isSchnorr then (Pass.turn r pass).sets
      else []) = [] := by
      split
      · rename_i kind
        exact unset kind
      · rfl
    rw [deferredSets_append, none_set, List.append_nil, h.sets_eq]

/-- A Schnorr check that is not found is offered to the queue, and what is committed meanwhile is
set. -/
theorem check_missed (h : Booked past pass q) (kind : r.question.isSchnorr = true) {cache : κ}
    (missed : (SignatureCache.get r.question.fingerprint (!r.store)).Yields pass.cache.cache false
      cache) :
    ∃ after, (Pass.check r.base r.store r.question).Yields pass
      (q.offer maxBatchSize r.question r.question).1 after ∧
      Booked (past ++ [Pass.turn r pass]) after (q.offer maxBatchSize r.question r.question).2 ∧
      after.cache.cache =
        putAll
          ((q.committedSince (q.offer maxBatchSize r.question r.question).2).map Check.fingerprint)
            cache := by
  obtain ⟨a, batch, tracks, capacity⟩ := h.tracked
  obtain ⟨_, inner, sets⟩ := pass
  cases batch
  have looked := Pass.yields_lookup r.base (Logged.yields_get missed)
  obtain ⟨accumulator, resolved, tracking, same⟩ :=
    Pass.yields_resolve_tracked tracks r.base r.store r.question kind (Logged.mk cache sets)
  rw [capacity] at resolved tracking same
  rw [Logged.putAll_eq] at resolved
  have checked := Pass.yields_check_of_missed looked resolved
  have turn := turn_eq looked checked rfl
  refine ⟨_, checked, ⟨⟨accumulator, rfl, tracking, same⟩, h.regular.offer _, ?_, ?_⟩, rfl⟩
  · rw [turn, queuedChecks_append, Turn.isQueued_of_missed, kind, Bool.true_and,
      h.queued_eq, OneQueue.labels_offer]
  · have labels :=
      OneQueue.append_committedSince (q.committed_prefix_offer maxBatchSize r.question r.question)
    rw [turn, deferredSets_append, if_pos kind, h.sets_eq, ← List.map_append, labels]

/-- With room in the queue, a check that a batch takes and the cache does not hold is queued, and
nothing is set. -/
theorem check_queued (h : Booked past pass q) {item : BatchItem}
    (read : r.question.item? = some item) (usable : q.usable = true)
    (room : q.pending.length ≠ maxBatchSize) {cache : κ}
    (missed : (SignatureCache.get r.question.fingerprint (!r.store)).Yields pass.cache.cache false
      cache) :
    ∃ after, (Pass.check r.base r.store r.question).Yields pass true after ∧
      Booked (past ++ [Pass.turn r pass]) after
        (q.push r.question r.question.isValid) ∧ after.cache.cache = cache := by
  have step := h.check_missed (Check.isSchnorr_of_item? read) missed
  have uncommitted : q.committedSince (q.push r.question r.question.isValid) = [] :=
    OneQueue.committedSince_eq_nil rfl
  rw [OneQueue.offer_room read usable room] at step
  dsimp only at step
  rw [uncommitted] at step
  exact step

/-- Every check is answered and booked. -/
theorem check (h : Booked past pass q) (r : Request) :
    ∃ answer after next, (Pass.check r.base r.store r.question).Yields pass answer after ∧
      Booked (past ++ [Pass.turn r pass]) after next := by
  obtain ⟨found, cache, get⟩ :=
    CalmCache.get_answers r.question.fingerprint (!r.store) pass.cache.cache
  have looked : (Pass.lookup r.base r.store r.question).Yields pass found
    { pass with cache := { pass.cache with cache } } :=
    Pass.yields_lookup r.base (Logged.yields_get get)
  cases found with
  | true =>
    have checked := Pass.yields_check_of_found looked
    have turn := turn_eq looked checked (List.append_nil _).symm
    have unqueued : (Pass.turn r pass).isQueued = false := by
      rw [turn, Turn.isQueued_of_found]
    exact ⟨true, _, q, checked, h.pass_by rfl unqueued fun _ => by rw [turn]⟩
  | false =>
    cases kind : r.question.isSchnorr with
    | true =>
      obtain ⟨after, checked, booked, _⟩ := h.check_missed kind get
      exact ⟨_, after, _, checked, booked⟩
    | false =>
      obtain ⟨answer, after, step⟩ :=
        CachingChecker.exists_resolve ⟨r.base, r.store⟩ r.question { pass.cache with cache }
      have resolved : (Pass.resolve r.base r.store r.question).Yields
          { pass with cache := { pass.cache with cache } } answer { pass with cache := after } :=
        Pass.yields_resolve_undeferred (Or.inr kind) step
      have checked := Pass.yields_check_of_missed looked resolved
      refine ⟨answer, _, q, checked, h.pass_by rfl (Turn.isQueued_of_ecdsa kind) fun schnorr => ?_⟩
      rw [kind] at schnorr
      cases schnorr

theorem checkAll (h : Booked past pass q) (requests : List Request) :
    ∃ answers after next, (Pass.checkAll requests).Yields pass answers after ∧
      Booked (past ++ Pass.turns requests pass) after next := by
  induction requests generalizing past pass q with
  | nil =>
    rw [Pass.turns, List.append_nil]
    exact ⟨[], pass, q, Pass.yields_checkAll_nil pass, h⟩
  | cons r rest ih =>
    obtain ⟨answer, between, _, first, booking⟩ := h.check r
    obtain ⟨answers, after, next, later, booked⟩ := ih booking
    rw [List.append_assoc, List.singleton_append, ← first.state_eq] at booked
    exact ⟨answer :: answers, after, next, Pass.yields_checkAll_cons first later, booked⟩

/-- What is said at the end, and what is set then. -/
theorem finish (h : Booked past pass q) :
    pass.finish.outcome = .ok
      (if q.verify.1 then .ok () else .error (.invalidBatch q.pending.length)) ∧
      pass.lateSets = (q.committedSince q.verify.2).map Check.fingerprint := by
  obtain ⟨a, batch, tracks, _⟩ := h.tracked
  obtain ⟨_, inner, sets⟩ := pass
  cases batch
  obtain ⟨after, settled⟩ := Pass.yields_settle_tracked tracks (Logged.mk inner sets)
  rw [Logged.putAll_eq] at settled
  refine ⟨settled.outcome_eq, ?_⟩
  rw [Pass.lateSets, Pass.finish, settled.state_eq, Pass.drop, List.drop_left]

/-- Where the final verification fails, the failure lies in what was still waiting. -/
theorem located (h : Booked past pass q) (failed : q.verify.1 = false) :
    Located past pass q.pending.length := by
  obtain ⟨a, _, tracks, capacity⟩ := h.tracked
  obtain ⟨unsound, uncommitted⟩ := h.regular.of_verify failed
  obtain ⟨c, waits, wrong⟩ := h.regular.exists_invalid unsound
  have length : (queuedChecks past).length = q.committed.length + q.pending.length := by
    rw [h.queued_eq, OneQueue.labels, List.length_append, List.length_map]
  have before : (queuedChecks past).length - q.pending.length = q.committed.length := by omega
  have split : queuedChecks past = q.committed ++ q.pending.map Prod.fst := h.queued_eq
  constructor
  case positive =>
    rw [← List.length_map Prod.fst]
    exact List.length_pos_of_mem waits
  case le_queued => omega
  case le_batch =>
    rw [← capacity]
    exact tracks.pending_le
  case whole =>
    rw [before]
    exact h.regular.whole
  case sound =>
    rw [before, split, List.take_left]
    exact h.regular.sound
  case sets_eq =>
    rw [before, split, List.take_left, h.sets_eq,
      h.finish.2, OneQueue.committedSince_eq_nil uncommitted]
    exact List.append_nil _
  case blamed =>
    rw [before, split, List.drop_left]
    exact ⟨c, waits, wrong⟩

end Booked

/-- For every sequence of checks through a batching pass, over every cache that never panics, the
pass is finished with a verdict, and if that is a failure with so many checks pending, it tells
where the failure lies. -/
theorem Pass.failure_located [CalmCache κ] (config : Config) (cache : κ) (requests : List Request) :
    ∃ answers pass verdict,
      (checkAll requests).Yields
        (start { config with batchSchnorr := true } ⟨cache, []⟩) answers pass ∧
      pass.finish.outcome = .ok verdict ∧
      ∀ pending, verdict = .error (.invalidBatch pending) →
        Located
          (turns requests (start { config with batchSchnorr := true } ⟨cache, []⟩))
            pass pending := by
  obtain ⟨answers, pass, q, run, booked⟩ := (Booked.start config cache).checkAll requests
  refine ⟨answers, pass, _, run, booked.finish.1, fun pending failed => ?_⟩
  cases verdict : q.verify.1 with
  | true =>
    rw [verdict] at failed
    cases failed
  | false =>
    rw [verdict] at failed
    cases failed
    exact booked.located verdict

/-- A valid signature and one that is not are queued, and the end says that the failure lies among
the two. -/
theorem Pass.failure_located_forged :
    let requests : List Request := [.sample, .forged]
    let first : Pass (Logged BoundedCache) := start ⟨true, 2⟩ ⟨{ maxEntries := 2 }, []⟩
    ∃ answers pass, (checkAll requests).Yields first answers pass ∧
      pass.finish.outcome = .ok (.error (.invalidBatch 2)) ∧
        Located (turns requests first) pass 2 := by
  intro requests first
  obtain ⟨answers, pass, verdict, run, ends, located⟩ :=
    failure_located ⟨true, 2⟩ ({ maxEntries := 2 } : BoundedCache) requests
  obtain ⟨item, read⟩ := Check.exists_item?_of_isValid rfl Check.isValid_sample
  obtain ⟨item', read'⟩ := Check.exists_item?_forged
  have missed (question : Check) (erase : Bool) :
    (SignatureCache.get question.fingerprint erase).Yields
      ({ maxEntries := 2 } : BoundedCache) false { maxEntries := 2 } := by
    have get := BoundedCache.yields_get question.fingerprint erase { maxEntries := 2 }
    rw [decide_eq_false List.not_mem_nil, BoundedCache.afterGet_of_not_mem List.not_mem_nil] at get
    exact get
  obtain ⟨second, checked, booked, same⟩ :=
    (Booked.start ⟨true, 2⟩ ({ maxEntries := 2 } : BoundedCache)).check_queued
    (r := .sample) read rfl (by decide) (missed _ _)
  obtain ⟨third, checked', booked', _⟩ := booked.check_queued (r := .forged)
    read' rfl (by decide) (by rw [same]; exact missed _ _)
  obtain ⟨rfl, rfl⟩ :=
    run.unique (yields_checkAll_cons checked
      (yields_checkAll_cons checked' (yields_checkAll_nil third)))
  have fails := booked'.finish.1
  rw [OneQueue.verify_invalid rfl
    (by simp [OneQueue.push, OneQueue.allValid, Request.forged, Check.isValid_forged])] at fails
  rw [fails] at ends
  exact ⟨_, pass, run, fails, located 2 (Except.ok.inj ends).symm⟩

end SigValidation
