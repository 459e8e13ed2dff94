import SigValidation.Proofs.Accumulator.OneByOne
import SigValidation.Proofs.Accumulator.Refusals
/-!
# What the journal says of a run

The counters and the log events of a run account for each of its calls. What is counted as queued
and not as committed waits, and what is counted as committed was set. Every signature that was to be
added leaves one mark, which says what the backend made of it (`Event.mark?`), and a failed
verification is counted once. Single calls are booked in `booked_add` and `booked_verify`, and
bookings join (`Booked.trans`). Over the secp256k1 context nothing is complained of as long as every
signature that it can read is valid: the context then stays `Healthy`.
-/
namespace SigValidation

deriving instance DecidableEq for Accumulator.Reception

namespace Event

open Accumulator

/-- What the backend made of a signature, where an event tells. -/
def mark? : Event → Option Reception
  | count .queued 1 => some .taken
  | count .rejected 1 => some .rejected
  | log (.malformedKey _) => some .malformed
  | log .backendUnusable => some .unusable
  | _ => none

def marks (events : List Event) : List Reception := events.filterMap mark?

/-- The number of log events that tell of an error. -/
def errorCount (events : List Event) : Nat :=
  (logs events).countP fun event => event.severity? = some .error

@[simp] theorem total_append (counter : Counter) (events more : List Event) :
    total counter (events ++ more) = total counter events + total counter more := by
  induction events with
  | nil => simp [total]
  | cons event rest ih =>
    simp only [total, List.cons_append, List.map_cons, List.foldr_cons] at ih ⊢
    omega

@[simp] theorem marks_append (events more : List Event) :
    marks (events ++ more) = marks events ++ marks more :=
  List.filterMap_append

@[simp] theorem errorCount_append (events more : List Event) :
    errorCount (events ++ more) = errorCount events + errorCount more := by
  rw [errorCount, logs, List.filterMap_append, List.countP_append]
  rfl

/-- Backends and caches have no part in the counters, -/
@[simp] theorem total_told (counter : Counter) (told : List Notice) :
    total counter (told.map Notice.toEvent) = 0 := by
  induction told with
  | nil => rfl
  | cons notice rest ih =>
    cases notice <;> simpa [total, Notice.toEvent] using ih

/-- leave no marks, -/
@[simp] theorem marks_told (told : List Notice) : marks (told.map Notice.toEvent) = [] := by
  induction told with
  | nil => rfl
  | cons notice rest ih => cases notice <;> exact ih

/-- and tell of no errors. -/
@[simp] theorem errorCount_told (told : List Notice) :
    errorCount (told.map Notice.toEvent) = 0 := by
  induction told with
  | nil => rfl
  | cons notice rest ih => cases notice <;> exact ih

end Event

namespace Accumulator

open Workspace

variable {σ κ : Type}

theorem total_committedEvents (counter : Counter) (count : Nat) :
    Event.total counter (committedEvents count) = if counter = .committed then count else 0 := by
  cases counter <;> simp [committedEvents, Event.total]

theorem marks_committedEvents (count : Nat) : Event.marks (committedEvents count) = [] := rfl

theorem errorCount_committedEvents (count : Nat) :
    Event.errorCount (committedEvents count) = 0 := rfl

/-- What the backend makes of the signatures that some calls bring, one after the other. -/
def receptions [BatchBackend σ] [SignatureCache κ] :
    List Operation → Workspace σ κ → List (Except Panic Reception)
  | [], _ => []
  | .add signature key sighash entry :: rest, w =>
    ((present signature key sighash).run w.accumulator.context).outcome ::
      receptions rest ((Operation.add signature key sighash entry).perform.run w).state
  | .verify :: rest, w => receptions rest (Operation.verify.perform.run w).state

/-- The answer to a signature that was to be added. -/
def addAnswer? : Operation × Bool → Option Bool
  | (.add .., answer) => some answer
  | (.verify, _) => none

def isFailure : Operation × Bool → Bool
  | (.verify, answer) => !answer
  | (.add .., _) => false

/-- What was written between two workspaces, while these calls got these answers and the backend
these signatures. -/
structure Booked (u : Workspace σ (Logged κ)) (said : List (Operation × Bool))
    (received : List (Except Panic Reception)) (events : List Event) (w : Workspace σ (Logged κ)) :
    Prop where
  sound : w.accumulator.poisoned = false
  waiting_eq : u.accumulator.waiting.length + Event.total .queued events =
    Event.total .committed events + w.accumulator.waiting.length
  sets_eq : u.cache.sets.length + Event.total .committed events = w.cache.sets.length
  invalidBatch_eq : Event.total .invalidBatch events = said.countP isFailure
  marks_eq : (Event.marks events).map .ok = received
  answers_eq : said.filterMap addAnswer? = (Event.marks events).map Reception.isTaken
  queued_eq : Event.total .queued events = (Event.marks events).count .taken
  rejected_eq : Event.total .rejected events = (Event.marks events).count .rejected
  errorCount_eq : Event.errorCount events = (Event.marks events).count .unusable

namespace Booked

variable {u v w : Workspace σ (Logged κ)} {said later : List (Operation × Bool)}
  {received receivedLater : List (Except Panic Reception)} {events more : List Event}

theorem refl (sound : w.accumulator.poisoned = false) : Booked w [] [] [] w where
  sound := sound
  waiting_eq := (Nat.zero_add _).symm
  sets_eq := rfl
  invalidBatch_eq := rfl
  marks_eq := rfl
  answers_eq := rfl
  queued_eq := rfl
  rejected_eq := rfl
  errorCount_eq := rfl

/-- What was written in two stretches of calls, one behind the other, adds up. -/
theorem trans (first : Booked u said received events v)
    (second : Booked v later receivedLater more w) :
    Booked u (said ++ later) (received ++ receivedLater) (events ++ more) w where
  sound := second.sound
  waiting_eq := by
    have before := first.waiting_eq
    have after := second.waiting_eq
    simp only [Event.total_append]
    omega
  sets_eq := by rw [Event.total_append, ← Nat.add_assoc, first.sets_eq, second.sets_eq]
  invalidBatch_eq := by
    rw [Event.total_append, List.countP_append, first.invalidBatch_eq, second.invalidBatch_eq]
  marks_eq := by rw [Event.marks_append, List.map_append, first.marks_eq, second.marks_eq]
  answers_eq := by rw [Event.marks_append, List.map_append, List.filterMap_append,
    first.answers_eq, second.answers_eq]
  queued_eq := by rw [Event.total_append, Event.marks_append, List.count_append,
    first.queued_eq, second.queued_eq]
  rejected_eq := by rw [Event.total_append, Event.marks_append, List.count_append,
    first.rejected_eq, second.rejected_eq]
  errorCount_eq := by
    rw [Event.errorCount_append, Event.marks_append, List.count_append, first.errorCount_eq,
      second.errorCount_eq]

/-- A yes to a verification is not written down by itself. -/
theorem verified (sound : w.accumulator.poisoned = false) : Booked w [(.verify, true)] [] [] w where
  sound := sound
  waiting_eq := (Nat.zero_add _).symm
  sets_eq := rfl
  invalidBatch_eq := rfl
  marks_eq := rfl
  answers_eq := rfl
  queued_eq := rfl
  rejected_eq := rfl
  errorCount_eq := rfl

/-- A verification that fails is counted and changes nothing else. -/
theorem failed (sound : w.accumulator.poisoned = false) (pending : Nat) :
    Booked w [(.verify, false)] [] [.log (.batchFailed pending), .count .invalidBatch 1] w where
  sound := sound
  waiting_eq := (Nat.zero_add _).symm
  sets_eq := rfl
  invalidBatch_eq := rfl
  marks_eq := rfl
  answers_eq := rfl
  queued_eq := rfl
  rejected_eq := rfl
  errorCount_eq := rfl

/-- What the backend tells by itself is not counted. -/
theorem told (sound : w.accumulator.poisoned = false) (context : σ) (told : List Notice) :
    Booked w [] [] (told.map Notice.toEvent) (w.withContext context) where
  sound := sound
  waiting_eq := by simp
  sets_eq := by simp
  invalidBatch_eq := by simp
  marks_eq := by simp
  answers_eq := by simp
  queued_eq := by simp
  rejected_eq := by simp
  errorCount_eq := by simp

section Settle

variable {signature : Bytes} {key : XOnlyKey} {sighash : SigHash} {entry : Fingerprint}

/-- A signature that is queued beside others is counted and leaves its mark. -/
theorem queued (sound : w.accumulator.poisoned = false) (pending : Nat) :
    Booked w [(.add signature key sighash entry, true)]
      [.ok .taken] (queuedEvents pending) (w.queued entry) where
  sound := sound
  waiting_eq := by
    change w.accumulator.waiting.length + 1 = 0 + (w.accumulator.waiting ++ [entry]).length
    rw [List.length_append, Nat.zero_add]
    rfl
  sets_eq := rfl
  invalidBatch_eq := rfl
  marks_eq := rfl
  answers_eq := rfl
  queued_eq := rfl
  rejected_eq := rfl
  errorCount_eq := rfl

variable [SignatureCache κ]

/-- What waited is counted as committed and was set. -/
theorem committed {cache : Logged κ} {setting : List Notice}
    (sound : w.accumulator.poisoned = false)
    (sets : (setAll w.accumulator.waiting).run w.cache = ⟨.ok (), cache, setting⟩) :
    Booked w [] [] (setting.map Notice.toEvent ++ committedEvents w.accumulator.waiting.length)
      ((w.withWaiting []).withCache cache) where
  sound := sound
  waiting_eq := by simp [total_committedEvents, withCache, withWaiting]
  sets_eq := by
    have logged : cache.sets = w.cache.sets ++ w.accumulator.waiting :=
      Logged.sets_of_setAll ⟨_, sets⟩
    simp [total_committedEvents, withCache, logged]
  invalidBatch_eq := by simp [total_committedEvents]
  marks_eq := by simp [marks_committedEvents]
  answers_eq := by simp [marks_committedEvents]
  queued_eq := by simp [total_committedEvents, marks_committedEvents]
  rejected_eq := by simp [total_committedEvents, marks_committedEvents]
  errorCount_eq := by simp [errorCount_committedEvents, marks_committedEvents]

theorem enqueued {events : List Event} (sound : w.accumulator.poisoned = false)
    (reply : (enqueue entry).run w = ⟨.ok (), v, events⟩) :
    Booked w [(.add signature key sighash entry, true)] [.ok .taken] events v := by
  by_cases full : w.accumulator.waiting.length = w.accumulator.capacity
  · rw [run_enqueue_full full] at reply
    cases sets : (setAll w.accumulator.waiting).run w.cache with
    | mk outcome cache setting =>
      rw [sets] at reply
      cases outcome with
      | error cause => cases reply
      | ok _ =>
        cases reply
        rw [← List.append_assoc]
        exact (committed sound sets).trans
          (queued (w := (w.withWaiting []).withCache cache) sound 1)
  · rw [run_enqueue_room full] at reply
    cases reply
    exact queued sound _

theorem settled {reception : Reception} {answer : Bool} {events : List Event}
    (sound : w.accumulator.poisoned = false)
    (reply : (settle key sighash entry reception).run w = ⟨.ok answer, v, events⟩) :
    Booked w [(.add signature key sighash entry, answer)] [.ok reception] events v := by
  cases reception with
  | unusable | malformed | rejected =>
    cases reply
    exact ⟨sound, (Nat.zero_add _).symm, rfl, rfl, rfl, rfl, rfl, rfl, rfl⟩
  | taken =>
    obtain ⟨_, after, told, _, enqueueing, answered, rfl⟩ := Routine.of_run_bind reply
    cases answered
    rw [List.append_nil]
    exact enqueued sound enqueueing

end Settle

end Booked

section Calls

variable [BatchBackend σ] [SignatureCache κ] {w v : Workspace σ (Logged κ)} {answer : Bool}
  {events : List Event}

/-- A verification is booked as one call without a mark. -/
theorem booked_verify (reply : Accumulator.verify.run w = ⟨.ok answer, v, events⟩) :
    Booked w [(.verify, answer)] [] events v := by
  have outcome : Performed w .verify (Accumulator.verify.run w) := performed .verify w
  rw [reply] at outcome
  cases outcome with
  | refused sound context told refusal =>
    cases refusal
    exact (Booked.told sound context told).trans (.failed (w := w.withContext context) sound _)
  | verified sound context told sets =>
    refine (Booked.told sound context told).trans ?_
    exact (Booked.verified (w := w.withContext context) sound).trans (.committed sound sets)

/-- Adding a signature is booked as one call with the mark that the backend's answer leaves. -/
theorem booked_add {signature : Bytes} {key : XOnlyKey} {sighash : SigHash} {entry : Fingerprint}
    (reply : (Accumulator.add signature key sighash entry).run w = ⟨.ok answer, v, events⟩) :
    Booked w [(.add signature key sighash entry, answer)]
      [((present signature key sighash).run w.accumulator.context).outcome] events v := by
  rw [add_eq] at reply
  obtain ⟨sound, reply⟩ := of_run_locked reply
  obtain ⟨reception, between, first, later, presenting, settling, rfl⟩ := Routine.of_run_bind reply
  obtain ⟨context, told, received, rfl, rfl⟩ := Routine.of_run_onPart presenting
  rw [received]
  exact (Booked.told sound context told).trans
    (.settled (w := w.withContext context) sound settling)

/-- The bookings of a run that answers. -/
theorem booked_performAll {operations : List Operation} {answers : List Bool}
    (sound : w.accumulator.poisoned = false)
    (run : (performAll operations).run w = ⟨.ok answers, v, events⟩) :
    Booked w (operations.zip answers) (receptions operations w) events v := by
  induction operations generalizing w answers events with
  | nil =>
    cases run
    exact .refl sound
  | cons operation rest ih =>
    obtain ⟨answer, others, between, first, later, call, onward, rfl, rfl⟩ :=
      of_run_performAll_cons run
    cases operation with
    | verify =>
      have booked := booked_verify call
      have after : (Operation.verify.perform.run w).state = between := by rw [call]
      rw [receptions, after]
      exact booked.trans (ih booked.sound onward)
    | add signature key sighash entry =>
      have booked := booked_add call
      have after : ((Operation.add signature key sighash entry).perform.run w).state = between := by
        rw [call]
      rw [receptions, after]
      exact booked.trans (ih booked.sound onward)

end Calls

section Genuine

/-- The call brings a valid signature, or none that a batch would take. -/
def Operation.isGenuine : Operation → Bool
  | add signature key sighash entry =>
    (add signature key sighash entry).isMalformed || (Check.schnorr signature key sighash).isValid
  | verify => true

theorem Operation.isValid_of_isGenuine {signature : Bytes} {key : XOnlyKey} {sighash : SigHash}
    {entry : Fingerprint} {item : BatchItem}
    (genuine : (add signature key sighash entry).isGenuine = true)
    (read : (Check.schnorr signature key sighash).item? = some item) : item.isValid = true := by
  cases malformed : (add signature key sighash entry).isMalformed with
  | true =>
    rw [unread_of_isMalformed malformed] at read
    cases read
  | false =>
    rw [← Check.isValid_of_item? read]
    rwa [isGenuine, malformed, Bool.false_or] at genuine

/-- A usable context does not call itself unusable. -/
theorem present_usable {c : BatchContext} (usable : c.usable = true) (signature : Bytes)
    (key : XOnlyKey) (sighash : SigHash) :
    ((present signature key sighash).run c).outcome ≠ .ok .unusable := by
  have usability := BatchContext.yields_isUsable c
  rw [usable] at usability
  rw [present, usability.outcome_bind]
  intro unusable
  obtain ⟨parsed, _, _, parsing⟩ := (Routine.yields_of_outcome_eq unusable).of_bind
  cases parsed with
  | none => cases parsing.outcome_eq
  | some point =>
    obtain ⟨taken, _, _, answered⟩ := parsing.of_bind
    cases taken <;> cases answered.outcome_eq

variable [SignatureCache κ] {w v : Workspace BatchContext κ}

theorem healthy_of_yields_add {signature : Bytes} {key : XOnlyKey} {sighash : SigHash}
    {entry : Fingerprint} {answer : Bool}
    (genuine : (Operation.add signature key sighash entry).isGenuine = true)
    (healthy : w.accumulator.context.Healthy)
    (step : (Accumulator.add signature key sighash entry).Yields w answer v) :
    v.accumulator.context.Healthy := by
  obtain ⟨reception, presented, _⟩ := context_of_yields_add step
  cases read : Curve.AffinePoint.ofXOnly? key.bytes with
  | none =>
    have malformed : (Operation.add signature key sighash entry).isMalformed = true := by
      rw [Operation.isMalformed, read]
      exact Bool.or_true _
    have same : w = v := (state_malformed malformed).symm.trans step.state_eq
    exact same ▸ healthy
  | some point =>
    refine (performed_of_present read presented).healthy healthy fun item added => ?_
    obtain ⟨parsed, parses, rfl⟩ := Option.map_eq_some_iff.mp added
    exact Operation.isValid_of_isGenuine genuine (Check.item?_eq_some parses read)

/-- A healthy context passes its verification and stays healthy. -/
theorem healthy_of_yields_verify {answer : Bool} (healthy : w.accumulator.context.Healthy)
    (step : Accumulator.verify.Yields w answer v) :
    v.accumulator.context.Healthy ∧ answer = true := by
  obtain ⟨valid, after, verified, outcome⟩ := BatchContext.performed .verify w.accumulator.context
  obtain ⟨rfl, rfl⟩ := verified.unique (context_of_yields_verify step)
  exact ⟨outcome.healthy healthy nofun,
    outcome.answer_iff.mpr ⟨healthy.usable, trivial, fun _ => healthy.valid⟩⟩

/-- While only genuine calls are made, no signature meets an unusable context and no verification
fails. -/
theorem performAll_genuine {operations : List Operation} {answers : List Bool} {events : List Event}
    (genuine : ∀ operation ∈ operations, operation.isGenuine = true)
    (healthy : w.accumulator.context.Healthy)
    (run : (performAll operations).run w = ⟨.ok answers, v, events⟩) :
    .ok .unusable ∉ receptions operations w ∧ (operations.zip answers).countP isFailure = 0 := by
  induction operations generalizing w answers events with
  | nil => exact ⟨List.not_mem_nil, rfl⟩
  | cons operation rest ih =>
    obtain ⟨answer, others, between, told, _, call, onward, rfl, rfl⟩ := of_run_performAll_cons run
    obtain ⟨first, later⟩ := List.forall_mem_cons.mp genuine
    have after : (operation.perform.run w).state = between := by rw [call]
    rw [List.zip_cons_cons, List.countP_cons]
    cases operation with
    | verify =>
      obtain ⟨kept, yes⟩ := healthy_of_yields_verify healthy ⟨told, call⟩
      obtain ⟨usable, verified⟩ := ih later kept onward
      rw [receptions, after, verified, yes]
      exact ⟨usable, rfl⟩
    | add signature key sighash entry =>
      have kept := healthy_of_yields_add first healthy ⟨told, call⟩
      obtain ⟨usable, verified⟩ := ih later kept onward
      rw [receptions, after, verified]
      exact ⟨List.not_mem_cons_of_ne_of_not_mem
        (present_usable healthy.usable signature key sighash).symm usable, rfl⟩

end Genuine

/-- What the events of a new accumulator's life tell, up to any point of it. -/
structure Reconciled (said : List (Operation × Bool)) (received : List (Except Panic Reception))
    (events : List Event) (w : Workspace σ (Logged κ)) : Prop where
  /-- What is counted as queued is counted as committed or waits. -/
  pending_eq : ∃ pending, w.accumulator.pendingCount = .ok pending ∧
    Event.total .queued events = Event.total .committed events + pending
  committed_eq : Event.total .committed events = w.cache.sets.length
  invalidBatch_eq : Event.total .invalidBatch events = said.countP isFailure
  /-- Each signature leaves one mark, which is what the backend made of it, -/
  marks_eq : (Event.marks events).map .ok = received
  /-- and is answered yes if and only if it was taken. -/
  answers_eq : said.filterMap addAnswer? = (Event.marks events).map Reception.isTaken
  queued_eq : Event.total .queued events = (Event.marks events).count .taken
  rejected_eq : Event.total .rejected events = (Event.marks events).count .rejected
  errorCount_eq : Event.errorCount events = (Event.marks events).count .unusable
  dropped : w.accumulator.dropped =
    if Event.total .queued events = Event.total .committed events then []
    else [.log (.discarded (Event.total .queued events - Event.total .committed events))]

/-- Where nothing waited and nothing was set at first, the bookings are all that happened. -/
theorem Booked.reconciled {u w : Workspace σ (Logged κ)} {said : List (Operation × Bool)}
    {received : List (Except Panic Reception)} {events : List Event}
    (h : Booked u said received events w) (nothing_waits : u.accumulator.waiting = [])
    (nothing_set : u.cache.sets = []) : Reconciled said received events w := by
  have balance := h.waiting_eq
  have sets := h.sets_eq
  rw [nothing_waits, List.length_nil, Nat.zero_add] at balance
  rw [nothing_set, List.length_nil, Nat.zero_add] at sets
  constructor
  case pending_eq =>
    refine ⟨w.accumulator.waiting.length, ?_, balance⟩
    rw [pendingCount, h.sound]
    rfl
  case committed_eq => exact sets
  case invalidBatch_eq => exact h.invalidBatch_eq
  case marks_eq => exact h.marks_eq
  case answers_eq => exact h.answers_eq
  case queued_eq => exact h.queued_eq
  case rejected_eq => exact h.rejected_eq
  case errorCount_eq => exact h.errorCount_eq
  case dropped =>
    rw [Accumulator.dropped, h.sound, Bool.false_or, balance, Nat.add_sub_cancel_left]
    simp only [List.isEmpty_iff, Nat.add_eq_left, List.length_eq_zero_iff]

/-- For every cache, every capacity and every sequence of calls none of which panics: over any
backend the journal accounts for each of the calls; and over the secp256k1 context, if all
signatures that it can read are valid, it tells of no error and of no invalid batch. -/
theorem performAll_reconciled [SignatureCache κ] {capacity : Nat} (positive : 0 < capacity)
    (cache : κ) (operations : List Operation) :
    (∀ (σ : Type) [BatchBackend σ] (context : σ) (answers : List Bool) (events : List Event)
      (w : Workspace σ (Logged κ)),
      let start : Workspace σ (Logged κ) :=
        ⟨{ capacity, capacity_pos := positive, context }, ⟨cache, []⟩⟩
      (performAll operations).run start = ⟨.ok answers, w, events⟩ →
        Reconciled (operations.zip answers) (receptions operations start) events w) ∧
      ((∀ operation ∈ operations, operation.isGenuine = true) →
        ∀ (answers : List Bool) (events : List Event) (w : Workspace BatchContext (Logged κ)),
          (performAll operations).run ⟨fresh capacity positive, ⟨cache, []⟩⟩ =
            ⟨.ok answers, w, events⟩ →
            Event.errorCount events = 0 ∧ Event.total .invalidBatch events = 0) := by
  constructor
  · intro σ _ context answers events w start run
    exact (booked_performAll (w := start) rfl run).reconciled rfl rfl
  · intro genuine answers events w run
    have booked := booked_performAll rfl run
    obtain ⟨usable, verified⟩ := performAll_genuine genuine ⟨rfl, rfl⟩ run
    rw [← booked.marks_eq] at usable
    rw [booked.errorCount_eq, booked.invalidBatch_eq, verified]
    exact ⟨List.count_eq_zero.mpr fun marked => usable (List.mem_map_of_mem marked), rfl⟩

/-- One signature is refused in each way, two are taken in turn by a batch of one, and a
verification fails: the first entry was committed and the second is lost with the accumulator. Over
the secp256k1 context a signature that is too short and two valid ones leave neither an error nor an
invalid batch. -/
theorem performAll_reconciled_refusals :
    let add :=
      fun n => Operation.add [] ⟨Bytes32.replicate 0⟩ ⟨Bytes32.replicate 0⟩ ⟨Bytes32.replicate n⟩
    let valid := fun n => Operation.add
      ((Bytes32.ofNat 0xe8e3115abfc3dc3e87bce6232d0a5407cb469b889445d15f0c8a2dabad9ad12e).toList ++
        (Bytes32.ofNat 0x53f93f0ef705b4207e27eb746fc83f3cf903af6be963adf5bd6687cd33451452).toList)
      ⟨Bytes32.ofNat 0xdbb1f1b0878c62a94b3cffdcc9def5455dcd1d2e2d069ee4e9361aa4ae47bc73⟩
      ⟨Bytes32.ofNat 0x000000025a5a5a5a5a5a5a5a5a5a5a5a5a5a5a5a5a5a5a5a5a5a5a5a5a5a5a5a⟩
        ⟨Bytes32.replicate n⟩
    let backend : ScriptedBackend :=
      { isUsableScript := [.answer false], parseScript := [.answer false],
        addScript := [.answer false], verifyScript := [.answer false] }
    let cache : Logged BoundedCache := ⟨⟨1, [], fun _ => 0⟩, []⟩
    let start : Workspace ScriptedBackend (Logged BoundedCache) :=
      ⟨{ capacity := 1, capacity_pos := Nat.one_pos, context := backend }, cache⟩
    let refusals := [add 1, add 2, add 3, add 4, add 5, .verify]
    let answers := [false, false, false, true, true, false]
    let refused := (performAll refusals).run start
    let genuine := [add 1, valid 2, valid 3, .verify]
    0 < 1 ∧
      (refused.outcome = .ok answers ∧
        Reconciled (refusals.zip answers) (receptions refusals start) refused.events refused.state ∧
        Event.marks refused.events = [.unusable, .malformed, .rejected, .taken, .taken] ∧
        Counter.all.map (Event.total · refused.events) = [2, 1, 1, 1, 0] ∧
        refused.state.accumulator.dropped = [.log (.discarded 1)]) ∧
      (∀ operation ∈ genuine, operation.isGenuine = true) ∧
        ∃ answers w events, (performAll genuine).run ⟨fresh 1 Nat.one_pos, cache⟩ =
          ⟨.ok answers, w, events⟩ ∧
          Event.errorCount events = 0 ∧ Event.total .invalidBatch events = 0 := by
  intro add valid backend cache start refusals answers refused genuine
  have refusing : refused.outcome = .ok answers := by decide +kernel
  have refusals_run : (performAll refusals).run start =
    ⟨.ok answers, refused.state, refused.events⟩ := by rw [← refusing]
  have valid_genuine : ∀ n, (valid n).isGenuine = true := by
    intro n
    rw [Operation.isGenuine, Bool.or_eq_true]
    exact .inr Check.isValid_sample
  have all_genuine : ∀ operation ∈ genuine, operation.isGenuine = true := by
    simp only [genuine, List.forall_mem_cons, valid_genuine]
    exact ⟨rfl, trivial, trivial, rfl, List.forall_mem_nil _⟩
  obtain ⟨reconciled, _⟩ := performAll_reconciled Nat.one_pos cache.cache refusals
  obtain ⟨_, untroubled⟩ := performAll_reconciled Nat.one_pos cache.cache genuine
  obtain ⟨_, _, ⟨_, genuine_run⟩, _⟩ := (Tracks.fresh Nat.one_pos).performAll genuine cache.cache
  refine ⟨Nat.one_pos, ⟨refusing, reconciled _ backend answers _ _ refusals_run, ?_⟩,
    all_genuine, _, _, _, genuine_run, ?_⟩
  · exact ⟨by decide +kernel, by decide +kernel, by decide +kernel⟩
  · exact untroubled all_genuine _ _ _ genuine_run

end Accumulator

end SigValidation
