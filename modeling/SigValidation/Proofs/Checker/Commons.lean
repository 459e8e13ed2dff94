import Mathlib.Logic.Function.Basic
import SigValidation.Proofs.Accumulator.Outcomes
import SigValidation.Proofs.Pass.Phases
/-!
# Checkers over a common cache

Any number of checkers may share a bounded cache, and with it any number of accumulators over any
backend. An action is a check through one of the checkers or a verification of what waits in an
accumulator; the end of a pass is such a verification (`Pass.finish_state`). Whatever the backends
do, a check is answered from the cache, is answered by the cryptography or is passed on to an
accumulator (`Acted`).

So an entry comes into the cache in two ways only: a check that the cryptography accepts is stored,
or a Schnorr check is queued in an accumulator and waits there until its batch is verified
(`Entered`).
-/
namespace SigValidation

open Accumulator

namespace BatchingChecker

variable {σ : Type} [BatchBackend σ] (base : BaseChecker) (store : Bool)
  {w : Workspace σ BoundedCache}

/-- A check that is found in the cache reaches no accumulator. -/
theorem yields_check_of_mem {question : Check} (held : question.fingerprint ∈ w.cache.entries) :
    (check ⟨⟨base, store⟩⟩ question).Yields w true
      (w.withCache (w.cache.afterGet question.fingerprint (!store))) := by
  cases question with
  | ecdsa => exact Workspace.yields_onCache (CachingChecker.yields_check_of_mem base store held)
  | schnorr signature key sighash =>
    have found := Workspace.yields_onCache (w := w)
      (BoundedCache.yields_get (Check.schnorr signature key sighash).fingerprint (!store) w.cache)
    rw [decide_eq_true held] at found
    apply found.bind
    exact (Routine.yields_emit _ _).bind
      ((Routine.yields_emit _ _).bind (Routine.yields_pure true _))

/-- An ECDSA check that is missed is answered by the cryptography at once. -/
theorem yields_check_ecdsa {signature key : Bytes} {sighash : SigHash}
    (missed : (Check.ecdsa signature key sighash).fingerprint ∉ w.cache.entries) :
    (check ⟨⟨base, store⟩⟩ (.ecdsa signature key sighash)).Yields w
      (Check.ecdsa signature key sighash).isValid
      (w.withCache (CachingChecker.keep store (.ecdsa signature key sighash) w.cache)) :=
  Workspace.yields_onCache (CachingChecker.yields_check_of_not_mem base store missed)

/-- A Schnorr check that is not found comes to what queueing it comes to, be it a panic. -/
theorem run_check_schnorr {signature : Bytes} {key : XOnlyKey} {sighash : SigHash}
    (missed : (Check.schnorr signature key sighash).fingerprint ∉ w.cache.entries) :
    let question := Check.schnorr signature key sighash
    let added := (Accumulator.add signature key sighash question.fingerprint).run w
    ((check ⟨⟨base, store⟩⟩ question).run w).outcome = added.outcome ∧
      ((check ⟨⟨base, store⟩⟩ question).run w).state = added.state := by
  have looked := Workspace.yields_onCache (w := w)
    (BoundedCache.yields_get (Check.schnorr signature key sighash).fingerprint (!store) w.cache)
  rw [decide_eq_false missed, BoundedCache.afterGet_of_not_mem missed] at looked
  exact ⟨looked.outcome_bind _, looked.state_bind _⟩

end BatchingChecker

namespace Accumulator

variable {σ : Type}

/-- The entry that a call may queue. -/
def Operation.entry? : Operation → Option Fingerprint
  | add _ _ _ entry => some entry
  | verify => none

variable {w : Workspace σ BoundedCache} {operation : Operation}
  {reply : Reply Event (Workspace σ BoundedCache) Bool}
  {x : Fingerprint}

def isFull (a : Accumulator σ) : Bool := a.waiting.length == a.capacity

/-- A call puts nothing into the cache but what waited, and only if it answers yes: to the question
whether the batch is valid or, where the batch is full and therefore verified, to one more
signature. -/
theorem Performed.mem_cache (h : Performed w operation reply)
    (held : x ∈ reply.state.cache.entries) :
    x ∈ w.cache.entries ∨ reply.outcome = .ok true ∧ x ∈ w.accumulator.waiting ∧
      (operation = .verify ∨ w.accumulator.isFull = true) := by
  cases h with
  | barred | broken | refused | queued => exact Or.inl held
  | flushed sound context told full sets =>
    obtain ⟨_, rfl⟩ := eq_of_run_setAll sets
    exact (BoundedCache.mem_of_mem_putAll held).symm.imp_right
      fun waited => ⟨rfl, waited, Or.inr (beq_iff_eq.mpr full)⟩
  | verified sound context told sets =>
    obtain ⟨_, rfl⟩ := eq_of_run_setAll sets
    exact (BoundedCache.mem_of_mem_putAll held).symm.imp_right fun waited =>
      ⟨rfl, waited, Or.inl rfl⟩
  | interrupted sound context told sets =>
    cases (eq_of_run_setAll sets).1

/-- A call lets nothing wait but what waited and, if it answers yes, its own entry. -/
theorem Performed.mem_waiting (h : Performed w operation reply)
    (waits : x ∈ reply.state.accumulator.waiting) :
    x ∈ w.accumulator.waiting ∨ reply.outcome = .ok true ∧ operation.entry? = some x := by
  cases h with
  | barred | broken | refused => exact Or.inl waits
  | queued =>
    rcases List.mem_append.mp waits with old | new
    · exact Or.inl old
    · cases List.mem_singleton.mp new
      exact Or.inr ⟨rfl, rfl⟩
  | flushed =>
    cases List.mem_singleton.mp waits
    exact Or.inr ⟨rfl, rfl⟩
  | verified | interrupted => cases waits

end Accumulator

/-- The cache and the accumulators that checkers share. -/
structure Commons (σ : Type) where
  cache : BoundedCache
  accumulators : Nat → Accumulator σ

namespace Commons

inductive Action where
  /-- A check through a caching checker. -/
  | caching (r : Request)
  /-- A check through a batching checker over the accumulator with the number. -/
  | batching (k : Nat) (r : Request)
  | verify (k : Nat)

namespace Action

def request? : Action → Option Request
  | caching r | batching _ r => some r
  | verify _ => none

/-- The call that is made on an accumulator, for a check unless it is found in the cache. -/
def operation? : Action → Option (Nat × Operation)
  | caching _ => none
  | batching k ⟨_, _, .schnorr signature key sighash⟩ =>
    some (k, .add signature key sighash (Check.schnorr signature key sighash).fingerprint)
  | batching _ ⟨_, _, .ecdsa ..⟩ => none
  | verify k => some (k, .verify)

/-- Whether the action is a check whose fingerprint the cache holds. -/
def found (action : Action) (cache : BoundedCache) : Bool :=
  action.request?.any fun r => decide (r.question.fingerprint ∈ cache.entries)

theorem found_eq_false {action : Action} {r : Request} {cache : BoundedCache}
    (asks : action.request? = some r) (missed : r.question.fingerprint ∉ cache.entries) :
    action.found cache = false := by
  rw [found, asks]
  exact decide_eq_false missed

theorem operation?_of_ecdsa {action : Action} {r : Request} (asks : action.request? = some r)
    (kind : r.question.isSchnorr = false) : action.operation? = none := by
  obtain ⟨base, store, question⟩ := r
  cases action with
  | caching => rfl
  | batching k =>
    cases asks
    cases question with
    | schnorr => cases kind
    | ecdsa => rfl
  | verify => cases asks

theorem eq_verify_of_operation? {action : Action} {k : Nat}
    (passes : action.operation? = some (k, .verify)) : action = .verify k := by
  cases action with
  | caching => cases passes
  | verify =>
    cases passes
    rfl
  | batching k r =>
    obtain ⟨base, store, question⟩ := r
    cases question <;> cases passes

/-- Only a Schnorr check over an accumulator is queued in it, under its own fingerprint. -/
theorem exists_of_operation? {action : Action} {k : Nat} {operation : Operation} {x : Fingerprint}
    (passes : action.operation? = some (k, operation)) (queued : operation.entry? = some x) :
    ∃ r, action = .batching k r ∧ r.question.isSchnorr = true ∧ r.question.fingerprint = x := by
  cases action with
  | caching => cases passes
  | verify =>
    cases passes
    cases queued
  | batching k r =>
    obtain ⟨base, store, question⟩ := r
    cases question with
    | ecdsa => cases passes
    | schnorr =>
      cases passes
      cases queued
      exact ⟨_, rfl, rfl, rfl⟩

end Action

/-- An action and what came of it. -/
structure Turn where
  action : Action
  /-- Whether it was a check that was found in the cache. -/
  found : Bool
  /-- What waited in the accumulator that the action may call. -/
  waited : List Fingerprint
  /-- Whether that was a full batch. -/
  full : Bool
  outcome : Except Panic Bool

namespace Turn

/-- The check was answered by the cryptography with yes, through a checker that stores. -/
structure Stores (turn : Turn) (r : Request) : Prop where
  asks : turn.action.request? = some r
  missed : turn.found = false
  undeferred : turn.action.operation? = none
  store : r.store = true
  accepted : r.truth = true
  yes : turn.outcome = .ok true

/-- The Schnorr check was made over the accumulator and was not found, but answered with yes. -/
structure Queues (turn : Turn) (k : Nat) (r : Request) : Prop where
  asks : turn.action = .batching k r
  missed : turn.found = false
  kind : r.question.isSchnorr = true
  yes : turn.outcome = .ok true

/-- The entry waited in the accumulator, and what waited there was verified: a verification was
answered with yes or, as a full batch is verified before it is cleared for the next signature, a
check that was queued behind a full batch. -/
structure Commits (turn : Turn) (k : Nat) (entry : Fingerprint) : Prop where
  verifies : turn.action = .verify k ∨ turn.full = true ∧ ∃ r, turn.Queues k r
  waited : entry ∈ turn.waited
  yes : turn.outcome = .ok true

end Turn

/-- The check was queued, whether or not its checker stores, and its entry waited until its batch
was verified. -/
structure Deferred (turns : List Turn) (queueing committing : Turn) (k : Nat) (r : Request) :
    Prop where
  order : List.Sublist [queueing, committing] turns
  queues : queueing.Queues k r
  commits : committing.Commits k r.question.fingerprint

/-- How an entry comes into the cache during some turns. -/
inductive Entered (turns : List Turn) : Fingerprint → Prop where
  | stored {turn : Turn} {r : Request} (member : turn ∈ turns) (stores : turn.Stores r) :
      Entered turns r.question.fingerprint
  | deferred {queueing committing : Turn} {k : Nat} {r : Request}
      (waited : Deferred turns queueing committing k r) :
      Entered turns r.question.fingerprint

def empty (limit : Nat) : Commons BatchContext :=
  ⟨{ maxEntries := limit }, fun _ => Pass.newAccumulator⟩

variable {σ : Type}

def waiting (c : Commons σ) (k : Nat) : List Fingerprint := (c.accumulators k).waiting

def workspace (c : Commons σ) (k : Nat) : Workspace σ BoundedCache := ⟨c.accumulators k, c.cache⟩

/-- Puts an accumulator back, with the cache it leaves. -/
def withWorkspace (c : Commons σ) (k : Nat) (w : Workspace σ BoundedCache) : Commons σ :=
  ⟨w.cache, Function.update c.accumulators k w.accumulator⟩

def withCache (c : Commons σ) (cache : BoundedCache) : Commons σ := { c with cache }

theorem withWorkspace_withCache (c : Commons σ) (k : Nat) (cache : BoundedCache) :
    c.withWorkspace k ((c.workspace k).withCache cache) = c.withCache cache := by
  have same : Function.update c.accumulators k (c.accumulators k) = c.accumulators :=
    Function.update_eq_self k _
  unfold withWorkspace withCache workspace Workspace.withCache
  rw [same]

theorem workspace_withWorkspace (c : Commons σ) (k : Nat) (w : Workspace σ BoundedCache) :
    (c.withWorkspace k w).workspace k = w :=
  congrArg (Workspace.mk · w.cache) (Function.update_self k _ _)

theorem waiting_withWorkspace_of_ne {k other : Nat} (different : other ≠ k) (c : Commons σ)
    (w : Workspace σ BoundedCache) : (c.withWorkspace k w).waiting other = c.waiting other :=
  congrArg Accumulator.waiting (Function.update_of_ne different _ _)

theorem waiting_withWorkspace (c : Commons σ) (k : Nat) (w : Workspace σ BoundedCache) :
    (c.withWorkspace k w).waiting k = w.accumulator.waiting :=
  congrArg Accumulator.waiting (Function.update_self k _ _)

variable [BatchBackend σ]

def onWorkspace (k : Nat) (r : Routine Event (Workspace σ BoundedCache) Bool) (c : Commons σ) :
    Except Panic Bool × Commons σ :=
  let reply := r.run (c.workspace k)
  (reply.outcome, c.withWorkspace k reply.state)

def perform (action : Action) (c : Commons σ) : Except Panic Bool × Commons σ :=
  match action with
  | .caching r =>
    let reply := (CachingChecker.check ⟨r.base, r.store⟩ r.question).run c.cache
    (reply.outcome, c.withCache reply.state)
  | .batching k r => c.onWorkspace k (BatchingChecker.check ⟨⟨r.base, r.store⟩⟩ r.question)
  | .verify k => c.onWorkspace k Accumulator.verify

def turn (action : Action) (c : Commons σ) : Turn where
  action := action
  found := action.found c.cache
  waited := action.operation?.elim [] fun (k, _) => c.waiting k
  full := action.operation?.any fun (k, _) => (c.accumulators k).isFull
  outcome := (c.perform action).1

def after : List Action → Commons σ → Commons σ
  | [], c => c
  | action :: rest, c => after rest (c.perform action).2

def history : List Action → Commons σ → List Turn
  | [], _ => []
  | action :: rest, c => c.turn action :: history rest (c.perform action).2

section Caching

variable {c : Commons σ} {r : Request}

theorem perform_caching_of_mem (held : r.question.fingerprint ∈ c.cache.entries) :
    c.perform (.caching r) =
      (.ok true, c.withCache (c.cache.afterGet r.question.fingerprint (!r.store))) := by
  have checked := CachingChecker.yields_check_of_mem r.base r.store held
  rw [perform, checked.outcome_eq, checked.state_eq]

theorem perform_caching_of_not_mem (missed : r.question.fingerprint ∉ c.cache.entries) :
    c.perform (.caching r) =
      (.ok r.truth, c.withCache (CachingChecker.keep r.store r.question c.cache)) := by
  have checked := CachingChecker.yields_check_of_not_mem r.base r.store missed
  rw [perform, checked.outcome_eq, checked.state_eq]
  rfl

end Caching

/-- All that an action can come to. -/
inductive Acted (c : Commons σ) (action : Action) : Except Panic Bool × Commons σ → Prop where
  | found {r : Request} (asks : action.request? = some r)
      (held : r.question.fingerprint ∈ c.cache.entries) :
      Acted c action (.ok true, c.withCache (c.cache.afterGet r.question.fingerprint (!r.store)))
  | alone {r : Request} (asks : action.request? = some r) (missed : action.found c.cache = false)
      (undeferred : action.operation? = none) :
      Acted c action (.ok r.truth, c.withCache (CachingChecker.keep r.store r.question c.cache))
  | passedOn {k : Nat} {operation : Operation} {reply : Reply Event (Workspace σ BoundedCache) Bool}
      (missed : action.found c.cache = false) (passes : action.operation? = some (k, operation))
      (performed : Performed (c.workspace k) operation reply) :
      Acted c action (reply.outcome, c.withWorkspace k reply.state)

/-- Every action comes to one of these things. -/
theorem acted (action : Action) (c : Commons σ) : Acted c action (c.perform action) := by
  cases action with
  | verify k => exact .passedOn rfl rfl (performed .verify (c.workspace k))
  | caching r =>
    by_cases held : r.question.fingerprint ∈ c.cache.entries
    · rw [perform_caching_of_mem held]
      exact .found rfl held
    · rw [perform_caching_of_not_mem held]
      exact .alone rfl (Action.found_eq_false rfl held) rfl
  | batching k r =>
    by_cases held : r.question.fingerprint ∈ c.cache.entries
    · have checked := BatchingChecker.yields_check_of_mem r.base r.store (w := c.workspace k) held
      rw [perform, onWorkspace, checked.outcome_eq, checked.state_eq, withWorkspace_withCache]
      exact .found rfl held
    · have missed : (Action.batching k r).found c.cache = false := Action.found_eq_false rfl held
      obtain ⟨base, store, question⟩ := r
      cases question with
      | ecdsa signature key sighash =>
        have checked := BatchingChecker.yields_check_ecdsa base store (w := c.workspace k) held
        rw [perform, onWorkspace, checked.outcome_eq, checked.state_eq, withWorkspace_withCache]
        exact .alone rfl missed rfl
      | schnorr signature key sighash =>
        obtain ⟨outcome, state⟩ :=
          BatchingChecker.run_check_schnorr base store (w := c.workspace k) held
        rw [perform, onWorkspace, outcome, state]
        exact .passedOn missed rfl (performed (.add signature key sighash _) (c.workspace k))

variable {c : Commons σ} {action : Action} {x : Fingerprint}

/-- An entry that is in the cache after an action was there before, is stored by the action, or
waited in an accumulator whose batch the action verified. -/
theorem mem_cache_perform (held : x ∈ (c.perform action).2.cache.entries) :
    x ∈ c.cache.entries ∨
      (∃ r, (c.turn action).Stores r ∧ r.question.fingerprint = x) ∨
      ∃ k, (c.turn action).Commits k x ∧ x ∈ c.waiting k := by
  have step := acted action c
  unfold turn
  generalize c.perform action = next at step held
  cases step with
  | found => exact Or.inl (BoundedCache.mem_of_mem_afterGet held)
  | alone asks missed undeferred =>
    change x ∈ (CachingChecker.keep _ _ c.cache).entries at held
    unfold CachingChecker.keep at held
    split at held
    · rename_i kept
      obtain ⟨accepted, store⟩ := Bool.and_eq_true_iff.mp kept
      rcases BoundedCache.mem_of_mem_insert held with rfl | old
      · exact Or.inr (Or.inl ⟨_, ⟨asks, missed, undeferred, store, accepted, congrArg _ accepted⟩,
          rfl⟩)
      · exact Or.inl old
    · exact Or.inl held
  | @passedOn k operation reply missed passes performed =>
    rcases performed.mem_cache held with old | ⟨yes, waited, verifies⟩
    · exact Or.inl old
    · refine Or.inr (Or.inr ⟨_, ⟨?_, by rw [passes]; exact waited, yes⟩, waited⟩)
      cases operation with
      | verify => exact Or.inl (Action.eq_verify_of_operation? passes)
      | add =>
        obtain ⟨r, asks, kind, -⟩ := Action.exists_of_operation? passes rfl
        exact Or.inr ⟨by rw [passes]; exact verifies.resolve_left nofun, r, asks, missed, kind, yes⟩

/-- An entry that waits after an action waited before or is queued by the action. -/
theorem mem_waiting_perform {k : Nat} (waits : x ∈ (c.perform action).2.waiting k) :
    x ∈ c.waiting k ∨ ∃ r, (c.turn action).Queues k r ∧ r.question.fingerprint = x := by
  have step := acted action c
  unfold turn
  generalize c.perform action = next at step waits
  cases step with
  | found | alone => exact Or.inl waits
  | @passedOn other operation reply missed passes performed =>
    by_cases same : k = other
    · subst same
      rw [waiting_withWorkspace] at waits
      rcases performed.mem_waiting waits with old | ⟨yes, queued⟩
      · exact Or.inl old
      · obtain ⟨r, asks, kind, named⟩ := Action.exists_of_operation? passes queued
        exact Or.inr ⟨r, ⟨asks, missed, kind, yes⟩, named⟩
    · rw [waiting_withWorkspace_of_ne same] at waits
      exact Or.inl waits

theorem Entered.cons {turns : List Turn} (h : Entered turns x) (turn : Turn) :
    Entered (turn :: turns) x := by
  cases h with
  | stored member stores => exact .stored (List.mem_cons_of_mem _ member) stores
  | deferred waited => exact .deferred ⟨waited.order.cons _, waited.queues, waited.commits⟩

theorem action_mem_of_mem_history {actions : List Action} {turn : Turn}
    (member : turn ∈ c.history actions) : turn.action ∈ actions := by
  induction actions generalizing c with
  | nil => cases member
  | cons action rest ih =>
    rcases List.mem_cons.mp member with rfl | later
    · exact List.mem_cons_self
    · exact List.mem_cons_of_mem _ (ih later)

/-- What is in the cache after some actions was there before, waited at first in an accumulator
whose batch was verified, or entered. -/
theorem mem_cache_after {actions : List Action} (held : x ∈ (c.after actions).cache.entries) :
    x ∈ c.cache.entries ∨ (∃ k, ∃ turn ∈ c.history actions, turn.Commits k x ∧ x ∈ c.waiting k) ∨
      Entered (c.history actions) x := by
  induction actions generalizing c with
  | nil => exact Or.inl held
  | cons action rest ih =>
    rcases ih held with now | ⟨k, turn, member, commits, waits⟩ | later
    · rcases mem_cache_perform now with old | ⟨r, stores, rfl⟩ | ⟨k, commits, waited⟩
      · exact Or.inl old
      · exact Or.inr (Or.inr (.stored List.mem_cons_self stores))
      · exact Or.inr (Or.inl ⟨k, _, List.mem_cons_self, commits, waited⟩)
    · rcases mem_waiting_perform waits with waited | ⟨r, queues, rfl⟩
      · exact Or.inr (Or.inl ⟨k, turn, List.mem_cons_of_mem _ member, commits, waited⟩)
      · exact Or.inr (Or.inr (.deferred ⟨(List.singleton_sublist.mpr member).cons_cons _,
          queues, commits⟩))
    · exact Or.inr (Or.inr (later.cons _))

/-- Where nothing waited at first, what is in the cache was there before or entered. -/
theorem mem_cache_after_of_fresh (fresh : ∀ k, c.waiting k = []) {actions : List Action}
    (held : x ∈ (c.after actions).cache.entries) :
    x ∈ c.cache.entries ∨ Entered (c.history actions) x := by
  rcases mem_cache_after held with old | ⟨k, _, _, _, waited⟩ | entered
  · exact Or.inl old
  · rw [fresh] at waited
    cases waited
  · exact Or.inr entered

end Commons

end SigValidation
