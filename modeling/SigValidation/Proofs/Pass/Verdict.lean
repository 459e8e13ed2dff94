import SigValidation.Proofs.Check.Recut
import SigValidation.Proofs.Pass.QueuePass
/-!
# What a finished pass says of its answers

With batching an answer of yes can mean no more than that a signature is waiting, and the verdict on
it comes later: when a full batch is flushed or when the pass is finished. `Reliable` is what holds
in between. As long as no batch has failed, an answer to a Schnorr check is the truth or is a yes
whose check still waits; after a failure an invalid signature that was answered with yes keeps
waiting. So the verdict at the end is about all answers together (`Pass.checkAll_finish`).
-/
namespace SigValidation

def Pass.checkAll {κ : Type} [SignatureCache κ] : List Request → Routine Event (Pass κ) (List Bool)
  | [] => return []
  | r :: rest => do
    let answer ← check r.base r.store r.question
    let answers ← checkAll rest
    return answer :: answers

section Yields

variable {κ : Type} [SignatureCache κ] {pass between after : Pass κ}

theorem Pass.yields_checkAll_nil (pass : Pass κ) : (checkAll []).Yields pass [] pass :=
  Routine.yields_pure [] pass

theorem Pass.yields_checkAll_cons {r : Request} {rest : List Request} {answer : Bool}
    {answers : List Bool} (first : (check r.base r.store r.question).Yields pass answer between)
    (later : (checkAll rest).Yields between answers after) :
    (checkAll (r :: rest)).Yields pass (answer :: answers) after :=
  first.bind (later.bind (Routine.yields_pure _ _))

end Yields

def QueuePass.checkAll : List Request → QueuePass → List Bool × QueuePass
  | [], p => ([], p)
  | r :: rest, p =>
    let (answer, next) := p.check r.store r.question
    let (answers, last) := checkAll rest next
    (answer :: answers, last)

theorem Follows.checkAll {pass : Pass BoundedCache} {p : QueuePass} (h : Follows pass p)
    (requests : List Request) :
    ∃ after, (Pass.checkAll requests).Yields pass (p.checkAll requests).1 after ∧
      Follows after (p.checkAll requests).2 := by
  induction requests generalizing pass p with
  | nil => exact ⟨pass, Pass.yields_checkAll_nil pass, h⟩
  | cons r rest ih =>
    obtain ⟨next, first, following⟩ := h.check r.base r.store r.question
    obtain ⟨after, later, follows⟩ := ih following
    exact ⟨after, Pass.yields_checkAll_cons first later, follows⟩

/-- Every Schnorr check asked whose fingerprint the cache holds is valid. -/
def Vouches (asked : List Check) (cache : BoundedCache) : Prop :=
  ∀ c ∈ asked, c.isSchnorr = true → c.fingerprint ∈ cache.entries → c.isValid = true

/-- A cache goes on vouching if all it gains are fingerprints of valid checks. -/
theorem Vouches.of_gain {asked : List Check} {cache after : BoundedCache} (h : Vouches asked cache)
    (collisionless : Collisionless asked)
    (gain : ∀ x ∈ after.entries, x ∈ cache.entries ∨ ∃ c ∈ asked, c.isValid = true ∧
      c.fingerprint = x) : Vouches asked after := by
  intro c member kind held
  rcases gain _ held with old | ⟨other, asked_too, valid, same⟩
  · exact h c member kind old
  · rw [collisionless.eq_of_fingerprint_eq member asked_too kind same.symm]
    exact valid

/-- What holds of a pass after some requests and their answers. -/
structure Reliable (asked : List Check) (said : List (Request × Bool)) (p : QueuePass) : Prop where
  vouches : Vouches asked p.cache
  pending_asked : ∀ t ∈ p.pending, t.1 ∈ asked ∧ t.2 = t.1.isValid
  pending_said : ∀ t ∈ p.pending, ∃ x ∈ said, x.1.question = t.1 ∧
    x.1.question.isSchnorr = true ∧ x.2 = true
  answered : p.usable = true → ∀ x ∈ said, x.1.question.isSchnorr = true →
    x.2 = x.1.truth ∨ x.2 = true ∧ (x.1.question, x.1.truth) ∈ p.pending
  failed : p.usable = false → p.pending.all Prod.snd = false

theorem QueuePass.length_checkAll (requests : List Request) (p : QueuePass) :
    (p.checkAll requests).1.length = requests.length := by
  induction requests generalizing p with
  | nil => rfl
  | cons r rest ih => exact congrArg Nat.succ (ih (p.check r.store r.question).2)

namespace Reliable

variable {asked : List Check} {said : List (Request × Bool)} {p : QueuePass} {r : Request}

/-- At the start nothing was said, and the cache vouches for what it holds. -/
theorem start {cache : BoundedCache} (vouches : Vouches asked cache) (config : Config) :
    Reliable asked [] (QueuePass.start config cache) where
  vouches := vouches
  pending_asked := by simp
  pending_said := by simp
  answered := by simp
  failed := by simp

/-- While every batch succeeded and all that waits is valid, each answer is the truth. -/
theorem answer_eq_truth (h : Reliable asked said p) (usable : p.usable = true)
    (sound : p.pending.all Prod.snd = true) {x : Request × Bool} (member : x ∈ said)
    (kind : x.1.question.isSchnorr = true) : x.2 = x.1.truth := by
  rcases h.answered usable x member kind with same | ⟨yes, waits⟩
  · exact same
  · rw [yes]
    exact (List.all_eq_true.mp sound _ waits).symm

/-- If not all that waits is valid, an invalid check was answered with yes. -/
theorem exists_wrong_yes (h : Reliable asked said p) (unsound : p.pending.all Prod.snd = false) :
    ∃ x ∈ said, x.1.question.isSchnorr = true ∧ x.2 = true ∧ x.1.truth = false := by
  obtain ⟨t, waits, invalid⟩ := List.all_eq_false.mp unsound
  obtain ⟨x, member, same, kind, yes⟩ := h.pending_said t waits
  refine ⟨x, member, kind, yes, ?_⟩
  rw [Request.truth, BaseChecker.check, same, ← (h.pending_asked t waits).2]
  exact Bool.eq_false_iff.mpr invalid

/-- An answer that is the truth, or that no batch stands behind any more, leaves what waits as it
is. -/
theorem say (h : Reliable asked said p) {cache : BoundedCache} {answer : Bool}
    (vouches : Vouches asked cache)
    (truthful : p.usable = true → r.question.isSchnorr = true → answer = r.truth) :
    Reliable asked (said ++ [(r, answer)]) { p with cache } where
  vouches := vouches
  pending_asked := h.pending_asked
  pending_said t waits := by
    obtain ⟨x, member, rest⟩ := h.pending_said t waits
    exact ⟨x, List.mem_append_left _ member, rest⟩
  answered usable x member kind := by
    rcases List.mem_append.mp member with old | new
    · exact h.answered usable x old kind
    · cases List.mem_singleton.mp new
      exact Or.inl (truthful usable kind)
  failed := h.failed

theorem verifyAlone (h : Reliable asked said p) (collisionless : Collisionless asked)
    (member : r.question ∈ asked) :
    Reliable asked (said ++ [(r, (p.verifyAlone r.store r.question).1)])
      (p.verifyAlone r.store r.question).2 := by
  unfold QueuePass.verifyAlone
  split
  · rename_i stored
    refine h.say ?_ fun _ _ => rfl
    refine h.vouches.of_gain collisionless ?_
    intro x held
    rcases BoundedCache.mem_of_mem_insert held with rfl | old
    · exact Or.inr ⟨r.question, member, (Bool.and_eq_true_iff.mp stored).1, rfl⟩
    · exact Or.inl old
  · exact h.say h.vouches fun _ _ => rfl

/-- A check that is queued behind the others is answered with yes and waits. -/
theorem queue (h : Reliable asked said p) {q : OneQueue Check} (held : p.queue = some q)
    (usable : p.usable = true) (member : r.question ∈ asked) (kind : r.question.isSchnorr = true) :
    Reliable asked
      (said ++ [(r, true)]) { p with queue := some (q.push r.question r.question.isValid) } where
  vouches := h.vouches
  pending_asked t waits := by
    rcases QueuePass.mem_pending_push held waits with old | rfl
    · exact h.pending_asked t old
    · exact ⟨member, rfl⟩
  pending_said t waits := by
    rcases QueuePass.mem_pending_push held waits with old | rfl
    · obtain ⟨x, earlier, rest⟩ := h.pending_said t old
      exact ⟨x, List.mem_append_left _ earlier, rest⟩
    · exact ⟨(r, true), List.mem_append_right _ (List.mem_singleton_self _), rfl, kind, rfl⟩
  answered _ x spoken schnorr := by
    rw [QueuePass.pending_push held]
    rcases List.mem_append.mp spoken with old | new
    · rcases h.answered usable x old schnorr with same | ⟨yes, waits⟩
      · exact Or.inl same
      · exact Or.inr ⟨yes, List.mem_append_left _ waits⟩
    · cases List.mem_singleton.mp new
      exact Or.inr ⟨rfl, List.mem_append_right _ (List.mem_singleton_self _)⟩
  failed unusable := by
    rw [QueuePass.usable_push held, usable] at unusable
    cases unusable

/-- After a flush all answers so far are the truth, and the fingerprints of what waited are in the
cache. -/
theorem flush (h : Reliable asked said p) (collisionless : Collisionless asked)
    (usable : p.usable = true) (sound : p.pending.all Prod.snd = true) (committed : List Check) :
    Reliable asked said
      ⟨some ⟨[], committed, true⟩, putAll (p.pending.map fun t => t.1.fingerprint) p.cache⟩ where
  vouches := by
    refine h.vouches.of_gain collisionless ?_
    intro x held
    refine (QueuePass.mem_of_mem_flushed sound held).imp_right ?_
    rintro ⟨t, waits, valid, named⟩
    obtain ⟨member, verdict⟩ := h.pending_asked t waits
    exact ⟨t.1, member, verdict.symm.trans valid, named⟩
  pending_asked t waits := by cases waits
  pending_said t waits := by cases waits
  answered _ x member kind := Or.inl (h.answer_eq_truth usable sound member kind)
  failed unusable := by cases unusable

/-- A failed batch keeps waiting, with an invalid signature in it. -/
theorem fail (h : Reliable asked said p) {q : OneQueue Check} (held : p.queue = some q)
    (unsound : p.pending.all Prod.snd = false) :
    Reliable asked (said ++ [(r, false)]) { p with queue := some { q with usable := false } } := by
  have same := QueuePass.pending_fail held
  constructor
  case vouches => exact h.vouches
  case pending_asked =>
    rw [same]
    exact h.pending_asked
  case pending_said =>
    rw [same]
    intro t waits
    obtain ⟨x, earlier, rest⟩ := h.pending_said t waits
    exact ⟨x, List.mem_append_left _ earlier, rest⟩
  case answered =>
    intro usable
    cases usable
  case failed =>
    rw [same]
    exact fun _ => unsound

theorem resolve (h : Reliable asked said p) (collisionless : Collisionless asked)
    (member : r.question ∈ asked) :
    Reliable asked
      (said ++ [(r, (p.resolve r.store r.question).1)]) (p.resolve r.store r.question).2 := by
  have step := QueuePass.resolved r.store r.question p
  generalize p.resolve r.store r.question = next at step
  cases step with
  | alone undeferred => exact h.verifyAlone collisionless member
  | malformed kind unread =>
    exact h.say h.vouches fun _ _ => (Check.isValid_of_item?_none kind unread).symm
  | unusable unusable =>
    refine h.say h.vouches fun usable => ?_
    rw [unusable] at usable
    cases usable
  | queued held read usable => exact h.queue held usable member (Check.isSchnorr_of_item? read)
  | @flushed q item committed held read usable sound =>
    exact (h.flush collisionless usable sound committed).queue rfl rfl member
      (Check.isSchnorr_of_item? read)
  | failed held unsound => exact h.fail held unsound

theorem check (h : Reliable asked said p) (collisionless : Collisionless asked)
    (member : r.question ∈ asked) :
    Reliable asked
      (said ++ [(r, (p.check r.store r.question).1)]) (p.check r.store r.question).2 := by
  by_cases held : r.question.fingerprint ∈ p.cache.entries
  · rw [QueuePass.check_of_mem held]
    refine h.say ?_ fun _ kind => (h.vouches _ member kind held).symm
    exact h.vouches.of_gain collisionless fun x kept =>
      Or.inl (BoundedCache.mem_of_mem_afterGet kept)
  · rw [QueuePass.check_of_not_mem held]
    exact h.resolve collisionless member

/-- A reliable pass stays reliable, whatever is asked. -/
theorem checkAll (h : Reliable asked said p) (collisionless : Collisionless asked)
    {requests : List Request} (members : ∀ r ∈ requests, r.question ∈ asked) :
    Reliable asked (said ++ requests.zip (p.checkAll requests).1) (p.checkAll requests).2 := by
  induction requests generalizing said p with
  | nil =>
    rw [List.zip_nil_left, List.append_nil]
    exact h
  | cons r rest ih =>
    have later := ih (h.check collisionless (members r List.mem_cons_self))
      fun other member => members other (List.mem_cons_of_mem _ member)
    rw [List.append_assoc] at later
    exact later

end Reliable

/-- What the verdict on a pass says of the answers to its Schnorr checks. -/
structure Justified (said : List (Request × Bool)) (verdict : Except PassError Unit) : Prop where
  /-- After a good end every answer, yes or no, is the truth. -/
  truthful : verdict = .ok () → ∀ x ∈ said, x.1.question.isSchnorr = true → x.2 = x.1.truth
  /-- After a failure some yes is wrong. -/
  blamed : ∀ cause, verdict = .error cause →
    ∃ x ∈ said, x.1.question.isSchnorr = true ∧ x.2 = true ∧ x.1.truth = false
  ok_iff : verdict = .ok () ↔
    ∀ x ∈ said, x.1.question.isSchnorr = true → x.2 = true → x.1.truth = true

/-- The verdict on a reliable pass says what its answers are worth. -/
theorem Reliable.justified {asked : List Check} {said : List (Request × Bool)} {p : QueuePass}
    (h : Reliable asked said p) : Justified said p.finish.1 := by
  rw [QueuePass.finish_eq]
  split
  · rename_i good
    have truthful := fun x member kind => h.answer_eq_truth good.1 good.2 (x := x) member kind
    refine ⟨fun _ => truthful, ?_, iff_of_true rfl ?_⟩
    · intro cause bad
      cases bad
    · intro x member kind yes
      rw [← truthful x member kind, yes]
  · rename_i bad
    have unsound : p.pending.all Prod.snd = false := by
      cases usable : p.usable with
      | false => exact h.failed usable
      | true => exact Bool.eq_false_iff.mpr fun sound => bad ⟨usable, sound⟩
    obtain ⟨x, member, kind, yes, wrong⟩ := h.exists_wrong_yes unsound
    refine ⟨?_, fun _ _ => ⟨x, member, kind, yes, wrong⟩, iff_of_false ?_ ?_⟩
    · intro good
      cases good
    · intro good
      cases good
    · intro all_true
      rw [all_true x member kind yes] at wrong
      cases wrong

/-- For every configuration, cache and sequence of checks, the verdict with which a pass is finished
justifies the answers given during it, provided that the cache vouches for the Schnorr checks it
holds at the start and that no two fingerprints of the run collide. -/
theorem Pass.checkAll_finish (config : Config) (cache : BoundedCache) (requests : List Request)
    (collisionless : Collisionless (requests.map Request.question))
    (vouches : ∀ r ∈ requests, r.question.isSchnorr = true →
      r.question.fingerprint ∈ cache.entries → r.truth = true) :
    ∃ answers pass verdict, (checkAll requests).Yields (start config cache) answers pass ∧
      pass.finish.outcome = .ok verdict ∧ answers.length = requests.length ∧
      Justified (requests.zip answers) verdict := by
  obtain ⟨pass, step, follows⟩ := (Follows.start config cache).checkAll requests
  have vouching : Vouches (requests.map Request.question) cache := by
    intro c member kind held
    obtain ⟨r, asked, rfl⟩ := List.mem_map.mp member
    exact vouches r asked kind held
  have reliable := (Reliable.start vouching config).checkAll collisionless
    fun r member => List.mem_map_of_mem member
  exact ⟨_, pass, _, step, follows.finish.1, QueuePass.length_checkAll requests _,
    reliable.justified⟩

/-- Over a cache that holds nothing, a valid signature and one that is not are queued side by
side. -/
theorem QueuePass.checkAll_forged (limit : UInt64) {cache : BoundedCache}
    (empty : cache.entries = []) :
    (start ⟨true, limit⟩ cache).checkAll [.sample, .forged] =
      ([true, true], ⟨some ⟨[(.sample, true), (.forged, false)], [], true⟩, cache⟩) := by
  have missed (x : Fingerprint) : x ∉ cache.entries := by simp [empty]
  have first : (start ⟨true, limit⟩ cache).check true .sample =
      (true, ⟨some ⟨[(.sample, true)], [], true⟩, cache⟩) :=
    check_sample (q := {}) rfl rfl (by decide) (missed _)
  have second : check true .forged ⟨some ⟨[(.sample, true)], [], true⟩, cache⟩ =
      (true, ⟨some ⟨[(.sample, true), (.forged, false)], [], true⟩, cache⟩) :=
    check_forged (q := ⟨[(.sample, true)], [], true⟩) rfl rfl (by decide) (missed _)
  simp only [checkAll, Request.sample, Request.forged, first, second]

/-- A valid signature and one that is not are queued and answered with yes, and the verdict is that
one of the two answers is wrong. -/
theorem Pass.checkAll_finish_forged :
    let requests : List Request := [.sample, .forged]
    let cache : BoundedCache := { maxEntries := 2 }
    Collisionless (requests.map Request.question) ∧
      (∀ r ∈ requests, r.question.isSchnorr = true → r.question.fingerprint ∈ cache.entries →
        r.truth = true) ∧
      ∃ pass, (checkAll requests).Yields (start ⟨true, 2⟩ cache) [true, true] pass ∧
        pass.pendingCount = .ok 2 ∧
        pass.finish.outcome = .ok (.error (.invalidBatch 2)) ∧
        Justified (requests.zip [true, true]) (.error (.invalidBatch 2)) := by
  intro requests cache
  have collisionless : Collisionless (requests.map Request.question) :=
    Collisionless.samples.mono (by simp [requests, Request.sample, Request.forged])
  have vouches : ∀ r ∈ requests, r.question.isSchnorr = true →
    r.question.fingerprint ∈ cache.entries →
      r.truth = true := fun r _ _ held => by cases held
  obtain ⟨answers, pass, verdict, run, ends, -, justified⟩ :=
    checkAll_finish ⟨true, 2⟩ cache requests collisionless vouches
  obtain ⟨followed, step, follows⟩ := (Follows.start ⟨true, 2⟩ cache).checkAll requests
  rw [QueuePass.checkAll_forged 2 rfl] at step follows
  obtain ⟨rfl, rfl⟩ := run.unique step
  cases ends.symm.trans follows.finish.1
  exact ⟨collisionless, vouches, pass, run, follows.pendingCount, follows.finish.1, justified⟩

end SigValidation
