import SigValidation.Cache.Recording
import SigValidation.Proofs.Accumulator.Accounting
/-!
# After a panic

Any call of a backend or a cache may panic, also in the middle of committing a batch. `Watched`
counts the calls that reach a backend or a cache and marks a panic among them. A routine is `Honest`
if it panics exactly when it leaves such a mark; what the accumulator does under its lock is, so
that the lock is poisoned exactly from the first such panic on (`Guarded`). A poisoned lock bars
every request before it reaches anything. So what is committed by then is all that ever will be: the
first entries of those queued, each once, and a flush that broke off is not taken up again.
-/
namespace SigValidation

/-- A backend or a cache, the number of calls that reached it, and whether one of them panicked. -/
structure Watched (τ : Type) where
  inner : τ
  calls : Nat := 0
  panicked : Bool := false

namespace Watched

variable {τ α : Type}

def watch (r : Routine Notice τ α) : Routine Notice (Watched τ) α := fun w =>
  let reply := r.run w.inner
  ⟨reply.outcome, ⟨reply.state, w.calls + 1, w.panicked || !reply.outcome.isOk⟩, reply.events⟩

instance [BatchBackend τ] : BatchBackend (Watched τ) where
  Key := BatchBackend.Key τ
  isUsable := watch BatchBackend.isUsable
  parse key := watch (BatchBackend.parse key)
  add signature sighash key := watch (BatchBackend.add signature sighash key)
  verify := watch BatchBackend.verify

instance [SignatureCache τ] : SignatureCache (Watched τ) where
  get entry erase := watch (SignatureCache.get entry erase)
  set entry := watch (SignatureCache.set entry)

end Watched

/-- Whether a call of the backend or of the cache has panicked. -/
def Workspace.panicked {σ κ : Type} (w : Workspace (Watched σ) (Logged (Watched κ))) : Bool :=
  w.accumulator.context.panicked || w.cache.cache.panicked

namespace Routine

variable {ε δ σ τ α β : Type} {panicked : σ → Bool}

/-- Where no panic is marked, the routine panics exactly if it marks one. -/
def Honest (panicked : σ → Bool) (r : Routine ε σ α) : Prop :=
  ∀ s, panicked s = false → panicked (r.run s).state = !(r.run s).outcome.isOk

/-- A routine that always answers is honest if it leaves the mark alone. -/
theorem Honest.of_yields {r : Routine ε σ α}
    (h : ∀ s, ∃ a t, r.Yields s a t ∧ panicked t = panicked s) : r.Honest panicked := by
  intro s clean
  obtain ⟨a, t, answers, same⟩ := h s
  rw [answers.outcome_eq, answers.state_eq, same, clean]
  rfl

theorem honest_pure (a : α) : (pure a : Routine ε σ α).Honest panicked :=
  .of_yields fun s => ⟨a, s, yields_pure a s, rfl⟩

theorem honest_state : (state : Routine ε σ σ).Honest panicked :=
  .of_yields fun s => ⟨s, s, yields_state s, rfl⟩

theorem honest_emit (event : ε) : (emit event : Routine ε σ Unit).Honest panicked :=
  .of_yields fun s => ⟨(), s, yields_emit event s, rfl⟩

theorem honest_modify (f : σ → σ) (same : ∀ s, panicked (f s) = panicked s) :
    (modify f : Routine ε σ Unit).Honest panicked :=
  .of_yields fun s => ⟨(), f s, yields_modify f s, same s⟩

/-- Honest routines are honest one after the other, as the second runs only if the first answers. -/
theorem Honest.bind {r : Routine ε σ α} {next : α → Routine ε σ β} (first : r.Honest panicked)
    (rest : ∀ a, (next a).Honest panicked) : (r >>= next).Honest panicked := by
  intro s clean
  have marked := first s clean
  rw [run_bind]
  cases reply : r.run s with
  | mk outcome t events =>
    rw [reply] at marked
    cases outcome with
    | error cause => exact marked
    | ok a => exact rest a t marked

theorem Honest.onPart {part : σ → τ} {replace : σ → τ → σ} {tell : δ → ε} {marked : τ → Bool}
    {r : Routine δ τ α} (h : r.Honest marked)
    (fits : ∀ s t, panicked s = false → marked (part s) = false ∧
      panicked (replace s t) = marked t) :
    (Routine.onPart part replace tell r).Honest panicked := by
  intro s clean
  obtain ⟨before, after⟩ := fits s (r.run (part s)).state clean
  rw [run_onPart, after]
  exact h (part s) before

/-- A watched call marks its own panic. -/
theorem honest_watch (r : Routine Notice τ α) : (Watched.watch r).Honest Watched.panicked := by
  intro w clean
  change (w.panicked || !(r.run w.inner).outcome.isOk) = !(r.run w.inner).outcome.isOk
  rw [clean, Bool.false_or]

end Routine

open Routine

namespace Logged

variable {κ : Type} [SignatureCache κ]

theorem honest_set (entry : Fingerprint) :
    (SignatureCache.set entry).Honest fun l : Logged (Watched κ) => l.cache.panicked := by
  have inner : (onInner (SignatureCache.set entry)).Honest fun l : Logged (Watched κ) =>
      l.cache.panicked :=
    (honest_watch (SignatureCache.set entry)).onPart fun l cache clean => ⟨clean, rfl⟩
  exact inner.bind fun _ => honest_modify _ fun _ => rfl

/-- Setting entries breaks off at the first call of the cache that panics. -/
theorem honest_setAll (entries : List Fingerprint) :
    (setAll entries).Honest fun l : Logged (Watched κ) => l.cache.panicked := by
  induction entries with
  | nil => exact honest_pure ()
  | cons entry rest ih => exact (honest_set entry).bind fun _ => ih

/-- The call is counted in any case, and the entry written down if it comes to its end. -/
theorem run_set (entry : Fingerprint) (l : Logged (Watched κ)) :
    let reply := (SignatureCache.set entry).run l
    reply.state.cache.calls = l.cache.calls + 1 ∧
      reply.state.sets = l.sets ++ (if reply.outcome.isOk then [entry] else []) := by
  intro reply
  have reply_eq : reply = (onInner (SignatureCache.set entry) >>= fun _ =>
      modify fun l : Logged (Watched κ) => { l with sets := l.sets ++ [entry] }).run l := rfl
  rw [run_bind] at reply_eq
  cases outcome : ((onInner (SignatureCache.set entry)).run l).outcome with
  | error cause =>
    rw [outcome] at reply_eq
    rw [reply_eq]
    exact ⟨rfl, (List.append_nil _).symm⟩
  | ok _ =>
    rw [outcome] at reply_eq
    rw [reply_eq]
    exact ⟨rfl, rfl⟩

/-- However setting some entries ends, the first of them were set, and all of them if it answers.
One call more reached the cache if it panicked. -/
theorem exists_done (entries : List Fingerprint) {l : Logged (Watched κ)}
    (clean : l.cache.panicked = false) :
    let reply := (setAll entries).run l
    ∃ done, done <+: entries ∧ (reply.outcome = .ok () → done = entries) ∧
      reply.state.sets = l.sets ++ done ∧
      reply.state.cache.calls = l.cache.calls + done.length + reply.state.cache.panicked.toNat := by
  induction entries generalizing l with
  | nil =>
    have none_more : l.cache.calls = l.cache.calls + 0 + l.cache.panicked.toNat := by
      rw [clean]; rfl
    exact ⟨[], List.prefix_rfl, fun _ => rfl, (List.append_nil _).symm, none_more⟩
  | cons entry rest ih =>
    intro reply
    have reply_eq : reply = (SignatureCache.set entry >>= fun _ => setAll rest).run l := rfl
    have marked := honest_set entry l clean
    obtain ⟨calls, sets⟩ := run_set entry l
    rw [run_bind] at reply_eq
    rw [reply_eq]
    cases outcome : ((SignatureCache.set entry).run l).outcome with
    | error cause =>
      rw [outcome] at sets marked
      refine ⟨[], List.nil_prefix, ?_, sets, calls.trans ?_⟩
      · intro answers
        cases answers
      · exact congrArg (l.cache.calls + Bool.toNat ·) marked.symm
    | ok _ =>
      rw [outcome] at sets marked
      obtain ⟨done, first, whole, later, counted⟩ := ih marked
      refine ⟨entry :: done, List.cons_prefix_cons.mpr ⟨rfl, first⟩,
        fun answers => congrArg _ (whole answers), ?_, ?_⟩
      · rw [sets] at later
        exact later.trans (List.append_assoc ..)
      · rw [calls] at counted
        rw [List.length_cons, Nat.add_succ, ← Nat.succ_add]
        exact counted

end Logged

namespace Accumulator

open Workspace

variable {σ κ : Type}

/-- What a holder of an accumulator can ask of it. -/
inductive Request where
  | call (operation : Operation)
  | pendingCount

inductive Answer where
  | said (yes : Bool)
  | counted (pending : Nat)
  deriving DecidableEq

def Request.perform [BatchBackend σ] [SignatureCache κ] :
    Request → Routine Event (Workspace σ κ) Answer
  | call operation => Answer.said <$> operation.perform
  | pendingCount => fun w => ⟨w.accumulator.pendingCount.map .counted, w, []⟩

/-- The entry that a request queued, as its outcome tells. -/
def Request.queued? : Request → Except Panic Answer → Option Fingerprint
  | call (.add _ _ _ entry), .ok (.said true) => some entry
  | _, _ => none

theorem Request.queued?_error (request : Request) (cause : Panic) :
    request.queued? (.error cause) = none := by
  cases request with
  | call operation => cases operation <;> rfl
  | pendingCount => rfl

theorem Request.queued?_said (operation : Operation) (yes : Bool) :
    ((call operation).queued? (.ok (.said yes))).toList = queuedEntries [(operation, yes)] := by
  cases operation <;> cases yes <;> rfl

def replies [BatchBackend σ] [SignatureCache κ] :
    List Request → Workspace σ κ → List (Request × Reply Event (Workspace σ κ) Answer)
  | [], _ => []
  | request :: rest, w =>
    (request, request.perform.run w) :: replies rest (request.perform.run w).state

/-- The entries that some requests queued, in order. -/
def queuedBy (replied : List (Request × Reply Event (Workspace σ κ) Answer)) : List Fingerprint :=
  replied.filterMap fun (request, reply) => request.queued? reply.outcome

theorem queuedBy_cons (request : Request) (reply : Reply Event (Workspace σ κ) Answer)
    (later : List (Request × Reply Event (Workspace σ κ) Answer)) :
    queuedBy
      ((request, reply) :: later) = (request.queued? reply.outcome).toList ++ queuedBy later := by
  unfold queuedBy
  cases queued : request.queued? reply.outcome <;> simp [queued]

def afterRequests [BatchBackend σ] [SignatureCache κ] : List Request → Workspace σ κ → Workspace σ κ
  | [], w => w
  | request :: rest, w => afterRequests rest (request.perform.run w).state

section Honesty

theorem honest_onContext {α : Type} {r : Routine Notice (Watched σ) α}
    (h : r.Honest Watched.panicked) :
    (onContext r : Routine Event (Workspace (Watched σ) (Logged (Watched κ))) α).Honest
      Workspace.panicked :=
  h.onPart fun w context clean => by
    obtain ⟨backend, cache⟩ := Bool.or_eq_false_iff.mp clean
    refine ⟨backend, ?_⟩
    change (context.panicked || w.cache.cache.panicked) = context.panicked
    rw [cache, Bool.or_false]

theorem honest_onCache {α : Type} {r : Routine Notice (Logged (Watched κ)) α}
    (h : r.Honest fun l => l.cache.panicked) :
    (onCache r : Routine Event (Workspace (Watched σ) (Logged (Watched κ))) α).Honest
      Workspace.panicked :=
  h.onPart fun w cache clean => by
    obtain ⟨backend, before⟩ := Bool.or_eq_false_iff.mp clean
    refine ⟨before, ?_⟩
    change (w.accumulator.context.panicked || cache.cache.panicked) = cache.cache.panicked
    rw [backend, Bool.false_or]

theorem honest_withWaiting
    (waiting : Workspace (Watched σ) (Logged (Watched κ)) → List Fingerprint) :
    (Routine.modify fun w => w.withWaiting (waiting w) :
      Routine Event (Workspace (Watched σ) (Logged (Watched κ))) Unit).Honest Workspace.panicked :=
  honest_modify _ fun _ => rfl

variable [SignatureCache κ]

/-- Committing panics only with the cache. -/
theorem honest_commit :
    (commit : Routine Event (Workspace (Watched σ) (Logged (Watched κ))) Unit).Honest
      Workspace.panicked := by
  refine honest_state.bind fun w => (honest_withWaiting fun _ => []).bind fun _ => ?_
  refine (honest_onCache (Logged.honest_setAll w.accumulator.waiting)).bind fun _ => ?_
  exact (honest_emit _).bind fun _ => honest_emit _

theorem honest_enqueue (entry : Fingerprint) :
    (enqueue entry : Routine Event (Workspace (Watched σ) (Logged (Watched κ))) Unit).Honest
      Workspace.panicked := by
  have queueing : (do
      Routine.modify fun w => w.withWaiting (w.accumulator.waiting ++ [entry])
      Routine.emit (.log (.queued (← Routine.state).accumulator.waiting.length))
      Routine.emit (.count .queued 1) :
        Routine Event (Workspace (Watched σ) (Logged (Watched κ))) Unit).Honest
          Workspace.panicked := by
    refine (honest_withWaiting _).bind fun _ => honest_state.bind fun _ => ?_
    exact (honest_emit _).bind fun _ => honest_emit _
  refine honest_state.bind fun w => ?_
  by_cases full : w.accumulator.waiting.length = w.accumulator.capacity
  · rw [if_pos full]
    exact honest_commit.bind fun _ => queueing
  · rw [if_neg full]
    exact queueing

theorem honest_settle (key : XOnlyKey) (sighash : SigHash) (entry : Fingerprint)
    (reception : Reception) :
    (settle key sighash entry reception :
      Routine Event (Workspace (Watched σ) (Logged (Watched κ))) Bool).Honest
        Workspace.panicked := by
  cases reception with
  | unusable | malformed => exact (honest_emit _).bind fun _ => honest_pure _
  | rejected => exact (honest_emit _).bind fun _ => (honest_emit _).bind fun _ => honest_pure _
  | taken => exact (honest_enqueue entry).bind fun _ => honest_pure _

variable [BatchBackend σ]

/-- Presenting a signature panics only with the backend. -/
theorem honest_present (signature : Bytes) (key : XOnlyKey) (sighash : SigHash) :
    (present signature key sighash : Routine Notice (Watched σ) Reception).Honest
      Watched.panicked := by
  refine (honest_watch _).bind fun usable => ?_
  split
  · refine (honest_watch _).bind fun parsed => ?_
    cases parsed with
    | none => exact honest_pure _
    | some parsed =>
      refine (honest_watch _).bind fun taken => ?_
      split <;> exact honest_pure _
  · exact honest_pure _

/-- A call is an honest routine under the lock. -/
theorem exists_honest (operation : Operation) :
    ∃ body : Routine Event (Workspace (Watched σ) (Logged (Watched κ))) Bool,
      operation.perform = locked body ∧ body.Honest Workspace.panicked := by
  cases operation with
  | add signature key sighash entry =>
    refine ⟨_, add_eq signature key sighash entry, ?_⟩
    exact (honest_onContext (honest_present signature key sighash)).bind fun reception =>
      honest_settle key sighash entry reception
  | verify =>
    refine ⟨_, rfl, (honest_onContext (honest_watch _)).bind fun valid => ?_⟩
    split
    · exact honest_commit.bind fun _ => honest_pure _
    · refine honest_state.bind fun w => ?_
      exact (honest_emit _).bind fun _ => (honest_emit _).bind fun _ => honest_pure _

end Honesty

section Calls

variable [BatchBackend σ] [SignatureCache κ] {w : Workspace (Watched σ) (Logged (Watched κ))}

/-- A call poisons the lock, or finds it poisoned, exactly if it panics. -/
theorem poisoned_perform (operation : Operation) (w : Workspace σ κ) :
    (operation.perform.run w).state.accumulator.poisoned =
      !(operation.perform.run w).outcome.isOk := by
  have outcome := performed operation w
  generalize operation.perform.run w = reply at outcome ⊢
  cases outcome with
  | barred poisoned => exact poisoned
  | broken | interrupted => rfl
  | refused sound | queued sound | flushed sound | verified sound => exact sound

theorem poisoned_request (request : Request) (w : Workspace σ κ) :
    (request.perform.run w).state.accumulator.poisoned = !(request.perform.run w).outcome.isOk := by
  cases request with
  | call operation =>
    have locked := poisoned_perform operation w
    rw [Request.perform, run_map]
    generalize operation.perform.run w = reply at *
    obtain ⟨outcome, v, events⟩ := reply
    cases outcome <;> exact locked
  | pendingCount =>
    change w.accumulator.poisoned = !(w.accumulator.pendingCount.map Answer.counted).isOk
    unfold pendingCount
    cases w.accumulator.poisoned <;> rfl

/-- Over a clean backend and cache a call panics exactly if one of theirs does. -/
theorem panicked_perform (sound : w.accumulator.poisoned = false) (clean : w.panicked = false)
    (operation : Operation) :
    (operation.perform.run w).state.panicked = !(operation.perform.run w).outcome.isOk := by
  obtain ⟨body, call, honest⟩ := exists_honest (σ := σ) (κ := κ) operation
  have marked := honest w clean
  rw [call, run_locked sound]
  generalize body.run w = reply at marked
  obtain ⟨outcome, v, events⟩ := reply
  cases outcome <;> exact marked

/-- A call commits the first of the entries that wait. If it answers, it leaves the others waiting,
and its own entry behind them if it was queued. -/
theorem exists_committed (sound : w.accumulator.poisoned = false) (clean : w.panicked = false)
    (operation : Operation) :
    let reply := operation.perform.run w
    ∃ done, done <+: w.accumulator.waiting ∧ reply.state.cache.sets = w.cache.sets ++ done ∧
      reply.state.cache.cache.calls = w.cache.cache.calls + done.length +
        reply.state.cache.cache.panicked.toNat ∧
      (∀ answer, reply.outcome = .ok answer → done ++ reply.state.accumulator.waiting =
        w.accumulator.waiting ++ queuedEntries [(operation, answer)]) := by
  intro reply
  have outcome : Performed w operation reply := performed operation w
  obtain ⟨_, before⟩ := Bool.or_eq_false_iff.mp clean
  have none_done : w.cache.cache.calls = w.cache.cache.calls + 0 +
    w.cache.cache.panicked.toNat := by rw [before]; rfl
  have flushing := Logged.exists_done w.accumulator.waiting before
  generalize reply = reply at outcome
  cases outcome with
  | barred poisoned => exact absurd (poisoned.symm.trans sound) Bool.noConfusion
  | broken =>
    exact ⟨[], List.nil_prefix, (List.append_nil _).symm, none_done,
      fun _ answers => nomatch answers⟩
  | refused sound context told refusal =>
    refine ⟨[], List.nil_prefix, (List.append_nil _).symm, none_done, fun answer answers => ?_⟩
    cases answers
    cases operation <;> exact (List.append_nil _).symm
  | queued =>
    refine ⟨[], List.nil_prefix, (List.append_nil _).symm, none_done, fun answer answers => ?_⟩
    cases answers
    rfl
  | flushed sound context told full sets | verified sound context told sets =>
    rw [sets] at flushing
    obtain ⟨done, first, whole, later, counted⟩ := flushing
    refine ⟨done, first, later, counted, fun answer answers => ?_⟩
    cases answers
    rw [whole rfl]
    rfl
  | interrupted sound context told sets =>
    rw [sets] at flushing
    obtain ⟨done, first, _, later, counted⟩ := flushing
    exact ⟨done, first, later, counted, fun _ answers => nomatch answers⟩

/-- Under a poisoned lock every request panics, and nothing is called, written or changed. -/
theorem run_request_poisoned {v : Workspace σ κ} (poisoned : v.accumulator.poisoned = true)
    (request : Request) : request.perform.run v = ⟨.error .poisonedLock, v, []⟩ := by
  cases request with
  | call operation =>
    have barred : operation.perform.run v = ⟨.error .poisonedLock, v, []⟩ := by
      cases operation <;> exact run_locked_poisoned poisoned
    rw [Request.perform, run_map, barred]
    rfl
  | pendingCount =>
    change (⟨v.accumulator.pendingCount.map .counted, v, []⟩ :
        Reply Event (Workspace σ κ) Answer) = _
    rw [pendingCount, if_pos poisoned]
    rfl

/-- Under a poisoned lock every request panics and leaves all as it is. -/
theorem mem_replies_poisoned {v : Workspace σ κ} (poisoned : v.accumulator.poisoned = true)
    {requests : List Request} {request : Request} {reply : Reply Event (Workspace σ κ) Answer}
    (replied : (request, reply) ∈ replies requests v) : reply = ⟨.error .poisonedLock, v, []⟩ := by
  induction requests with
  | nil => cases replied
  | cons first rest ih =>
    rw [replies, run_request_poisoned poisoned first] at replied
    obtain same | later := List.mem_cons.mp replied
    · exact congrArg Prod.snd same
    · exact ih later

end Calls

/-- What holds of a watched accumulator after some requests that queued these entries. -/
structure Guarded (queued : List Fingerprint) (w : Workspace (Watched σ) (Logged (Watched κ))) :
    Prop where
  poisoned_eq : w.accumulator.poisoned = w.panicked
  committed_prefix : w.cache.sets <+: queued
  calls_eq : w.cache.cache.calls = w.cache.sets.length + w.cache.cache.panicked.toNat
  intact : w.panicked = false → w.cache.sets ++ w.accumulator.waiting = queued

namespace Guarded

variable {queued : List Fingerprint} {w : Workspace (Watched σ) (Logged (Watched κ))}

theorem fresh {capacity : Nat} (positive : 0 < capacity) (context : σ) (cache : κ) :
    Guarded [] ⟨{ capacity, capacity_pos := positive, context := ⟨context, 0, false⟩ },
      ⟨⟨cache, 0, false⟩, []⟩⟩ where
  poisoned_eq := rfl
  committed_prefix := List.prefix_rfl
  calls_eq := rfl
  intact _ := rfl

variable [BatchBackend σ] [SignatureCache κ]

/-- A request keeps it, whether it answers or panics. -/
theorem request (h : Guarded queued w) (request : Request) :
    Guarded (queued ++ (request.queued? (request.perform.run w).outcome).toList)
      (request.perform.run w).state := by
  cases panicked : w.panicked with
  | true =>
    rw [run_request_poisoned (h.poisoned_eq.trans panicked) request, Request.queued?_error,
      Option.toList_none, List.append_nil]
    exact h
  | false =>
    have sound : w.accumulator.poisoned = false := h.poisoned_eq.trans panicked
    cases request with
    | pendingCount =>
      have nothing :
          (Request.pendingCount.queued? (Request.pendingCount.perform.run w).outcome).toList =
            [] := rfl
      rw [nothing, List.append_nil]
      exact h
    | call operation =>
      have marked := panicked_perform sound panicked operation
      have locked := poisoned_perform operation w
      obtain ⟨done, first, sets, calls, answered⟩ := exists_committed sound panicked operation
      obtain ⟨_, before⟩ := Bool.or_eq_false_iff.mp panicked
      rw [Request.perform, run_map]
      generalize operation.perform.run w = reply at *
      constructor
      case poisoned_eq => exact locked.trans marked.symm
      case committed_prefix =>
        rw [sets, ← h.intact panicked, List.append_assoc]
        exact (List.prefix_append_right_inj _).mpr (first.trans (List.prefix_append _ _))
      case calls_eq =>
        rw [sets, List.length_append, calls, h.calls_eq, before]
        rfl
      case intact =>
        intro clean
        rw [clean] at marked
        cases outcome : reply.outcome with
        | error cause =>
          rw [outcome] at marked
          cases marked
        | ok answer =>
          rw [sets, List.append_assoc, answered answer outcome, ← List.append_assoc,
            h.intact panicked]
          exact congrArg _ (Request.queued?_said operation answer).symm

/-- What holds of a watched accumulator holds after any requests. -/
theorem requests (h : Guarded queued w) (requests : List Request) :
    Guarded (queued ++ queuedBy (replies requests w)) (afterRequests requests w) := by
  induction requests generalizing queued w with
  | nil =>
    rw [replies, queuedBy, List.filterMap_nil, List.append_nil]
    exact h
  | cons first rest ih =>
    have later := ih (h.request first)
    rw [List.append_assoc] at later
    rw [replies, queuedBy_cons]
    exact later

end Guarded

/-- What holds once some requests have been made that queued these entries, and what the next ones
come to. -/
structure FailStop [BatchBackend σ] [SignatureCache κ] (queued : List Fingerprint)
    (w : Workspace (Watched σ) (Logged (Watched κ))) : Prop where
  /-- The entries whose setting came to its end are the first of those queued, in order, -/
  committed_prefix : w.cache.sets <+: queued
  /-- and the others wait until something panics. -/
  intact : w.panicked = false → w.cache.sets ++ w.accumulator.waiting = queued
  /-- Every call that reached the cache set one of them, but for the one that panicked. -/
  calls_eq : w.cache.cache.calls = w.cache.sets.length + w.cache.cache.panicked.toNat
  /-- A request panics exactly if a call has panicked by its end. -/
  panics_iff : ∀ request : Request, (request.perform.run w).outcome.isOk =
    !(request.perform.run w).state.panicked
  /-- Once a call has panicked, every request panics and leaves all as it is: backend and cache are
  not called again, -/
  barred : w.panicked = true → ∀ later request reply, (request, reply) ∈ replies later w →
    reply = ⟨.error .poisonedLock, w, []⟩
  /-- and when the accumulator is dropped, it does not even look at what still waits. -/
  dropped : w.panicked = true → w.accumulator.dropped = []

theorem Guarded.failStop [BatchBackend σ] [SignatureCache κ] {queued : List Fingerprint}
    {w : Workspace (Watched σ) (Logged (Watched κ))} (h : Guarded queued w) :
    FailStop queued w := by
  constructor
  case committed_prefix => exact h.committed_prefix
  case intact => exact h.intact
  case calls_eq => exact h.calls_eq
  case panics_iff =>
    intro request
    rw [← (h.request request).poisoned_eq, poisoned_request, Bool.not_not]
  case barred =>
    intro panicked later request reply replied
    exact mem_replies_poisoned (h.poisoned_eq.trans panicked) replied
  case dropped =>
    intro panicked
    rw [Accumulator.dropped, h.poisoned_eq, panicked]
    rfl

/-- For every backend, every cache, every capacity and every sequence of requests, with panics
anywhere in them: the first panic under the lock is the end. What is committed by then are the first
of the queued entries, each once and in order, and whatever is asked later panics without a call of
the backend or the cache. -/
theorem requests_failStop [BatchBackend σ] [SignatureCache κ] {capacity : Nat}
    (positive : 0 < capacity) (context : σ) (cache : κ) (requests : List Request) :
    let start : Workspace (Watched σ) (Logged (Watched κ)) :=
      ⟨{ capacity, capacity_pos := positive, context := ⟨context, 0, false⟩ },
        ⟨⟨cache, 0, false⟩, []⟩⟩
    FailStop (queuedBy (replies requests start)) (afterRequests requests start) :=
  ((Guarded.fresh positive context cache).requests requests).failStop

/-- A fourth signature flushes a batch of three, and the cache panics at the second entry: the first
one stays committed, and nothing asked later calls the cache or the backend again. -/
theorem requests_failStop_interrupted :
    let add := fun n =>
      Request.call (.add [] ⟨Bytes32.replicate 0⟩ ⟨Bytes32.replicate 0⟩ ⟨Bytes32.replicate n⟩)
    let cache : RecordingCache := { setScript := [.answer true, .panic] }
    let start : Workspace (Watched ScriptedBackend) (Logged (Watched RecordingCache)) :=
      ⟨{ capacity := 3, capacity_pos := Nat.succ_pos 2, context := ⟨{}, 0, false⟩ },
        ⟨⟨cache, 0, false⟩, []⟩⟩
    let requests := [add 1, add 2, add 3, add 4]
    let w := afterRequests requests start
    let last := afterRequests [.call .verify, add 5, .pendingCount] w
    0 < 3 ∧ FailStop [⟨Bytes32.replicate 1⟩, ⟨Bytes32.replicate 2⟩, ⟨Bytes32.replicate 3⟩] w ∧
      w.panicked = true ∧
      last.cache.sets = [⟨Bytes32.replicate 1⟩] ∧ last.cache.cache.calls = 2 ∧
      last.accumulator.context.calls = 12 := by
  intro add cache start requests w last
  have stops : FailStop (queuedBy (replies requests start)) w :=
    requests_failStop (Nat.succ_pos 2) ({} : ScriptedBackend) cache requests
  have queued : queuedBy (replies requests start) =
      [⟨Bytes32.replicate 1⟩, ⟨Bytes32.replicate 2⟩, ⟨Bytes32.replicate 3⟩] := by decide +kernel
  rw [queued] at stops
  exact ⟨Nat.succ_pos 2, stops, by decide +kernel, by decide +kernel, by decide +kernel,
    by decide +kernel⟩

end Accumulator

end SigValidation
