import SigValidation.Proofs.Pass.Steady
import SigValidation.Proofs.Pass.Verdict
/-!
# Batching instead of verifying at once

The same checks are made through a batching pass and through a pass that verifies at once, over one
cache with room for all of them. The two write their caches at different times: a check that waits
in one pass is stored in the other, and when it is asked again it is queued once more in the one and
found in the other. `Shadows` says how far the second cache can be ahead. It is ahead by valid
Schnorr checks only, and until a batch fails these are checks that wait.
-/
namespace SigValidation

open BoundedCache

/-- The answer to a check that is not deferred. -/
def answerOver (cache : BoundedCache) (c : Check) : Bool :=
  decide (c.fingerprint ∈ cache.entries) || c.isValid

namespace QueuePass

variable {p : QueuePass} {store : Bool} {c : Check} {reply : Bool × QueuePass}

/-- No batch of the pass has failed and all that waits is valid. -/
def Sound (p : QueuePass) : Prop := p.usable = true ∧ p.pending.all Prod.snd = true

/-- A pass that is sound once a check is resolved was sound before, and the answer to the check is
the truth. -/
theorem Resolved.of_sound (h : Resolved store c p reply) (sound : reply.2.Sound) :
    p.Sound ∧ reply.1 = c.isValid := by
  cases h with
  | alone undeferred =>
    rw [verifyAlone_eq] at sound
    exact ⟨sound, rfl⟩
  | malformed kind unread => exact ⟨sound, (Check.isValid_of_item?_none kind unread).symm⟩
  | unusable unusable =>
    rw [Sound, unusable] at sound
    cases sound.1
  | queued held read usable =>
    have all := sound.2
    rw [pending_push held, List.all_append, Bool.and_eq_true] at all
    have last : c.isValid = true := by simpa using all.2
    exact ⟨⟨usable, all.1⟩, last.symm⟩
  | flushed held read usable before =>
    have last : c.isValid = true := by simpa [pending] using sound.2
    exact ⟨⟨usable, before⟩, last.symm⟩
  | failed => cases sound.1

/-- Resolving a Schnorr check in a batching pass puts nothing into the cache but what waited and is
valid. -/
theorem Resolved.mem_cache (h : Resolved store c p reply) (batching : p.queue ≠ none)
    (kind : c.isSchnorr = true) {x : Fingerprint} (held : x ∈ reply.2.cache.entries) :
    x ∈ p.cache.entries ∨ ∃ t ∈ p.pending, t.2 = true ∧ t.1.fingerprint = x := by
  cases h with
  | alone undeferred =>
    rcases undeferred with immediate | other
    · exact absurd immediate batching
    · rw [kind] at other
      cases other
  | flushed _ read usable sound => exact mem_of_mem_flushed sound held
  | malformed | unusable | queued | failed => exact Or.inl held

theorem Resolved.mem_pending (h : Resolved store c p reply) {t : Check × Bool}
    (waits : t ∈ reply.2.pending) : t ∈ p.pending ∨ t.1 = c := by
  cases h with
  | alone undeferred =>
    rw [verifyAlone_eq] at waits
    exact Or.inl waits
  | malformed | unusable => exact Or.inl waits
  | queued held => exact (mem_pending_push held waits).imp_right fun new => congrArg Prod.fst new
  | flushed => exact Or.inr (congrArg Prod.fst (List.mem_singleton.mp waits))
  | failed held =>
    rw [pending_fail held] at waits
    exact Or.inl waits

/-- A check that is not deferred is answered with yes if it is found or valid, and a valid one is in
the cache then. -/
theorem check_undeferred (undeferred : p.queue = none ∨ c.isSchnorr = false) :
    p.check true c =
      (answerOver p.cache c, { p with cache := CachingChecker.keep true c p.cache }) := by
  unfold answerOver
  by_cases held : c.fingerprint ∈ p.cache.entries
  · have same : CachingChecker.keep true c p.cache = p.cache := by
      rw [CachingChecker.keep, BoundedCache.insert_of_mem held, ite_self]
    rw [check_of_mem held, same, decide_eq_true held]
    rfl
  · rw [check_of_not_mem held, resolve_undeferred undeferred, verifyAlone_eq, decide_eq_false held]
    rfl

end QueuePass

/-- What holds of a batching pass and the cache of a pass that verifies at once, after the same
checks. -/
structure Shadows (start : BoundedCache) (asked : List Check) (p : QueuePass)
    (cache : BoundedCache) : Prop where
  steady : Steady start asked p
  grown : ∃ added, Grown (asked.map Check.fingerprint) start cache added
  stored : ∀ x ∈ p.cache.entries, x ∈ cache.entries
  waiting : ∀ t ∈ p.pending, t.1.isValid = true → t.1.fingerprint ∈ cache.entries
  /-- What was gained is valid, and the batching pass has it too, unless a batch failed and it is a
  Schnorr check. -/
  gained : ∀ x ∈ cache.entries, x ∈ start.entries ∨
    ∃ c ∈ asked, c.isValid = true ∧ c.fingerprint = x ∧
      (p.usable = true ∨ c.isSchnorr = false → p.Holds c)

namespace Shadows

variable {start cache : BoundedCache} {asked : List Check} {p next : QueuePass} {c : Check}

theorem begin (config : Config) (batching : config.batchSchnorr = true) (start : BoundedCache)
    (asked : List Check) : Shadows start asked (.start config start) start where
  steady := .begin config batching start asked
  grown := ⟨[], .refl _ start⟩
  stored x held := held
  waiting := by simp
  gained x held := Or.inl held

section Step

variable (h : Shadows start asked p cache) (room : start.HasRoomFor (asked.map Check.fingerprint))
  (collisionless : Collisionless asked) (member : c ∈ asked)

include h

/-- An ECDSA check is found in both passes or in neither. -/
theorem held_iff (collisionless : Collisionless asked) (member : c ∈ asked)
    (kind : c.isSchnorr = false) :
    c.fingerprint ∈ cache.entries ↔ c.fingerprint ∈ p.cache.entries := by
  refine ⟨fun held => ?_, h.stored _⟩
  rcases h.gained _ held with old | ⟨d, asked_too, valid, named, holds⟩
  · exact h.steady.keeps_start old
  · have kinds := Check.isSchnorr_eq_of_preimage_eq (collisionless d asked_too c member named)
    rw [← named]
    exact h.steady.mem_of_holds (holds (Or.inr (kinds.trans kind))) (kinds.trans kind)

/-- A Schnorr check that the batching pass does not find is answered with the truth by the other
pass: if it is found there, it was found valid before. -/
theorem answerOver_eq (collisionless : Collisionless asked) (member : c ∈ asked)
    (kind : c.isSchnorr = true) (missed : c.fingerprint ∉ p.cache.entries) :
    answerOver cache c = c.isValid := by
  unfold answerOver
  by_cases held : c.fingerprint ∈ cache.entries
  · rcases h.gained _ held with old | ⟨d, asked_too, valid, named, _⟩
    · exact absurd (h.steady.keeps_start old) missed
    · rw [collisionless.eq_of_fingerprint_eq member asked_too kind named.symm, valid, Bool.or_true]
  · rw [decide_eq_false held, Bool.false_or]

include room member

/-- The batching pass moves on, and the other pass has the check in its cache if it is valid. -/
theorem advance (advances : Advances start asked p next)
    (stores : ∀ x ∈ next.cache.entries, x ∈ (CachingChecker.keep true c cache).entries)
    (waits : ∀ t ∈ next.pending, t ∈ p.pending ∨ t.1 = c)
    (takes : next.usable = true ∨ c.isSchnorr = false → c.isValid = true → next.Holds c) :
    Shadows start asked next (CachingChecker.keep true c cache) := by
  obtain ⟨added, grown⟩ := h.grown
  obtain ⟨growing, holds⟩ := grown.keep room member
  constructor
  case steady => exact advances.steady
  case grown => exact growing
  case stored => exact stores
  case waiting =>
    intro t waiting valid
    rcases waits t waiting with old | rfl
    · exact (holds _).mpr (Or.inr (h.waiting t old valid))
    · exact (holds _).mpr (Or.inl ⟨valid, rfl⟩)
  case gained =>
    intro x held
    rcases (holds x).mp held with ⟨valid, rfl⟩ | old
    · exact Or.inr ⟨c, member, valid, rfl, fun trusted => takes trusted valid⟩
    · refine (h.gained x old).imp_right ?_
      rintro ⟨d, asked_too, valid, named, held_before⟩
      exact ⟨d, asked_too, valid, named, fun trusted =>
        advances.holds d (held_before (trusted.imp_left advances.usable))⟩

/-- What one check through either pass comes to. -/
structure Step (start : BoundedCache) (asked : List Check) (c : Check) (p : QueuePass)
    (cache : BoundedCache) : Prop where
  shadows : Shadows start asked (p.check true c).2 (CachingChecker.keep true c cache)
  ecdsa : c.isSchnorr = false → (p.check true c).1 = answerOver cache c
  sound : (p.check true c).2.Sound → p.Sound ∧ (p.check true c).1 = answerOver cache c

/-- A check that the batching pass finds in its cache is in the other cache too. -/
theorem check_found (found : c.fingerprint ∈ p.cache.entries) : Step start asked c p cache := by
  obtain ⟨added, grown⟩ := h.grown
  have holds := (grown.keep room member).2
  have step : p.check true c = _ := QueuePass.check_of_mem found
  rw [Bool.not_true, BoundedCache.afterGet_keep] at step
  have answer : (p.check true c).1 = answerOver cache c := by
    rw [step, answerOver, decide_eq_true (h.stored _ found), Bool.true_or]
  refine ⟨?_, fun _ => answer, fun sound => ⟨?_, answer⟩⟩
  · rw [step]
    refine h.advance room member h.steady.refl ?_ (fun t waits => Or.inl waits)
      (fun _ _ => Or.inl found)
    exact fun x held => (holds x).mpr (Or.inr (h.stored x held))
  · rw [step] at sound
    exact sound

include collisionless

theorem check_ecdsa (kind : c.isSchnorr = false) : Step start asked c p cache := by
  obtain ⟨added, grown⟩ := h.grown
  obtain ⟨added', grown'⟩ := h.steady.grown
  have holds := (grown.keep room member).2
  have holds' := (grown'.keep room member).2
  have step : p.check true c = _ := QueuePass.check_undeferred (Or.inr kind)
  have answer : (p.check true c).1 = answerOver cache c := by
    rw [step, answerOver, answerOver, decide_eq_decide.mpr (h.held_iff collisionless member kind)]
  refine ⟨?_, fun _ => answer, fun sound => ⟨?_, answer⟩⟩
  · rw [step]
    refine h.advance room member (h.steady.keep room member) ?_ (fun t waits => Or.inl waits) ?_
    · exact fun x held => (holds x).mpr (((holds' x).mp held).imp_right (h.stored x))
    · exact fun _ valid => Or.inl ((holds' _).mpr (Or.inl ⟨valid, rfl⟩))
  · rw [step] at sound
    exact sound

/-- What a flush commits is in the other cache since it was queued. -/
theorem check_schnorr (kind : c.isSchnorr = true) (missed : c.fingerprint ∉ p.cache.entries) :
    Step start asked c p cache := by
  obtain ⟨added, grown⟩ := h.grown
  have holds := (grown.keep room member).2
  have absent : c.fingerprint ∉ start.entries := fun old => missed (h.steady.keeps_start old)
  obtain ⟨advances, foresees⟩ := h.steady.resolve room kind member absent
  have resolved := QueuePass.resolved true c p
  have step : p.check true c = _ := QueuePass.check_of_not_mem missed
  constructor
  case shadows =>
    rw [step]
    refine h.advance room member advances ?_ (fun t waits => resolved.mem_pending waits) ?_
    · intro x held
      rcases resolved.mem_cache h.steady.batching kind held with old | ⟨t, waited, valid, rfl⟩
      · exact (holds x).mpr (Or.inr (h.stored x old))
      · rw [(h.steady.pending t waited).2.1] at valid
        exact (holds _).mpr (Or.inr (h.waiting t waited valid))
    · rintro (usable | other) valid
      · exact (foresees usable).2 (foreseen_of_isValid kind valid)
      · rw [kind] at other
        cases other
  case ecdsa =>
    intro other
    rw [kind] at other
    cases other
  case sound =>
    rw [step, h.answerOver_eq collisionless member kind missed]
    exact resolved.of_sound

theorem check : Step start asked c p cache := by
  cases kind : c.isSchnorr with
  | false => exact h.check_ecdsa room collisionless member kind
  | true =>
    by_cases found : c.fingerprint ∈ p.cache.entries
    · exact h.check_found room member found
    · exact h.check_schnorr room collisionless member kind found

end Step

/-- What some checks through either pass come to. -/
structure Run (start : BoundedCache) (asked : List Check) (requests : List Request) (p : QueuePass)
    (cache after : BoundedCache) (answers : List Bool) : Prop where
  immediate : (QueuePass.mk none cache).checkAll requests = (answers, ⟨none, after⟩)
  shadows : Shadows start asked (p.checkAll requests).2 after
  ecdsa : ∀ (i : Nat) (r : Request), requests[i]? = some r → r.question.isSchnorr = false →
    (p.checkAll requests).1[i]? = answers[i]?
  sound : (p.checkAll requests).2.Sound → p.Sound ∧ (p.checkAll requests).1 = answers

/-- Any requests keep the two passes together. -/
theorem checkAll (h : Shadows start asked p cache)
    (room : start.HasRoomFor (asked.map Check.fingerprint)) (collisionless : Collisionless asked)
    {requests : List Request} (storing : ∀ r ∈ requests, r.store = true)
    (members : ∀ r ∈ requests, r.question ∈ asked) :
    ∃ after answers, Run start asked requests p cache after answers := by
  induction requests generalizing p cache with
  | nil => exact ⟨cache, [], rfl, h, fun _ _ _ _ => rfl, fun sound => ⟨sound, rfl⟩⟩
  | cons r rest ih =>
    have first := h.check room collisionless (members r List.mem_cons_self)
    obtain ⟨after, answers, later⟩ := ih first.shadows
      (fun other member => storing other (List.mem_cons_of_mem _ member))
      (fun other member => members other (List.mem_cons_of_mem _ member))
    have stores := storing r List.mem_cons_self
    refine ⟨after, answerOver cache r.question :: answers, ?_⟩
    constructor
    case immediate =>
      rw [QueuePass.checkAll, stores, QueuePass.check_undeferred (Or.inl rfl)]
      dsimp only
      rw [later.immediate]
    case shadows =>
      rw [QueuePass.checkAll, stores]
      exact later.shadows
    case ecdsa =>
      rw [QueuePass.checkAll, stores]
      intro i other given kind
      cases i with
      | zero =>
        cases given
        exact congrArg some (first.ecdsa kind)
      | succ i => exact later.ecdsa i other given kind
    case sound =>
      rw [QueuePass.checkAll, stores]
      intro sound
      obtain ⟨between, answers_eq⟩ := later.sound sound
      obtain ⟨before, answer_eq⟩ := first.sound between
      refine ⟨before, ?_⟩
      dsimp only
      rw [answer_eq, answers_eq]

/-- However the batching pass ends, the other cache holds all that its cache is left with. -/
theorem finish_subset (h : Shadows start asked p cache) {x : Fingerprint}
    (held : x ∈ p.finish.2.entries) : x ∈ cache.entries := by
  rw [QueuePass.finish_eq] at held
  split at held
  · rename_i good
    rcases QueuePass.mem_of_mem_flushed good.2 held with old | ⟨t, waited, valid, rfl⟩
    · exact h.stored x old
    · exact h.waiting t waited ((h.steady.pending t waited).2.1.symm.trans valid)
  · exact h.stored x held

/-- A sound pass ends with all that the other cache holds. -/
theorem mem_finish (h : Shadows start asked p cache)
    (room : start.HasRoomFor (asked.map Check.fingerprint)) (sound : p.Sound) {x : Fingerprint}
    (held : x ∈ cache.entries) : x ∈ p.finish.2.entries := by
  have flushing := h.steady.flush room sound.1 sound.2 []
  rw [QueuePass.finish_eq, if_pos ⟨sound.1, sound.2⟩]
  rcases h.gained x held with old | ⟨c, _, _, rfl, holds⟩
  · exact flushing.steady.keeps_start old
  · rcases flushing.holds c (holds (Or.inl sound.1)) with cached | waits
    · exact cached
    · cases waits

end Shadows

/-- What answers and cache of a batching pass, finished with a verdict, are to those of a pass that
verified at once. -/
structure Replaces (requests : List Request) (answers immediate : List Bool)
    (verdict : Except PassError Unit) (cache immediateCache : BoundedCache) : Prop where
  length_eq : answers.length = requests.length ∧ immediate.length = requests.length
  /-- After a good end no answer differs, and the caches hold the same entries. -/
  same : verdict = .ok () → answers = immediate ∧ ∀ x, x ∈ cache.entries ↔
    x ∈ immediateCache.entries
  /-- However it ends, the answers to ECDSA checks are the same, -/
  ecdsa : ∀ (i : Nat) (r : Request), requests[i]? = some r → r.question.isSchnorr = false →
    answers[i]? = immediate[i]?
  /-- and the cache holds nothing that the other does not. -/
  subset : ∀ x ∈ cache.entries, x ∈ immediateCache.entries

/-- A check asked twice, over a cache that holds nothing, is queued twice. -/
theorem QueuePass.checkAll_repeated {limit : UInt64} {cache : BoundedCache}
    (empty : cache.entries = []) :
    (start ⟨true, limit⟩ cache).checkAll [.sample, .sample] =
      ([true, true], ⟨some ⟨[(.sample, true), (.sample, true)], [], true⟩, cache⟩) := by
  have missed : Check.sample.fingerprint ∉ cache.entries := by simp [empty]
  have first : (start ⟨true, limit⟩ cache).check true .sample =
      (true, ⟨some ⟨[(.sample, true)], [], true⟩, cache⟩) :=
    check_sample (q := {}) rfl rfl (by decide) missed
  have second : check true .sample ⟨some ⟨[(.sample, true)], [], true⟩, cache⟩ =
      (true, ⟨some ⟨[(.sample, true), (.sample, true)], [], true⟩, cache⟩) :=
    check_sample (q := ⟨[(.sample, true)], [], true⟩) rfl rfl (by decide) missed
  simp only [checkAll, Request.sample, first, second]

/-- Without batching it is stored, and found the second time. -/
theorem QueuePass.checkAll_repeated_immediate {limit : UInt64} {cache : BoundedCache}
    (empty : cache.entries = []) (room : 0 < cache.maxEntries) :
    (start ⟨false, limit⟩ cache).checkAll [.sample, .sample] =
      ([true, true], ⟨none, { cache with entries := [Check.sample.fingerprint] }⟩) := by
  have missed : Check.sample.fingerprint ∉ cache.entries := by simp [empty]
  have stored : CachingChecker.keep true .sample cache =
    { cache with entries := [Check.sample.fingerprint] } := by
    simp [CachingChecker.keep, Check.isValid_sample, BoundedCache.insert, empty,
      room, Nat.ne_of_gt room]
  have first : (start ⟨false, limit⟩ cache).check true .sample =
      (true, ⟨none, { cache with entries := [Check.sample.fingerprint] }⟩) := by
    rw [check_of_not_mem missed, resolve_undeferred (Or.inl rfl), verifyAlone_eq,
      Check.isValid_sample]
    exact congrArg (fun after => (true, QueuePass.mk none after)) stored
  have second : check true .sample ⟨none, { cache with entries := [Check.sample.fingerprint] }⟩ =
      (true, ⟨none, { cache with entries := [Check.sample.fingerprint] }⟩) :=
    check_of_mem (List.mem_singleton_self _)
  simp only [checkAll, Request.sample, first, second]

/-- For every sequence of checks that store, over every cache with room for all of them, and where
no two fingerprints of the run collide, a batching pass replaces a pass that verifies at once. -/
theorem Pass.batching_replaces (config : Config) (cache : BoundedCache) (requests : List Request)
    (storing : ∀ r ∈ requests, r.store = true)
    (room : cache.HasRoomFor ((requests.map Request.question).map Check.fingerprint))
    (collisionless : Collisionless (requests.map Request.question)) :
    ∃ answers pass verdict immediate immediatePass,
      (checkAll requests).Yields (start { config with batchSchnorr := true } cache) answers pass ∧
      pass.finish.outcome = .ok verdict ∧
      (checkAll requests).Yields
        (start { config with batchSchnorr := false } cache) immediate immediatePass ∧
      immediatePass.finish.outcome = .ok (.ok ()) ∧
      Replaces requests answers immediate verdict pass.finish.state immediatePass.finish.state := by
  obtain ⟨pass, step, follows⟩ :=
    (Follows.start { config with batchSchnorr := true } cache).checkAll requests
  obtain ⟨immediatePass, immediateStep, immediateFollows⟩ :=
    (Follows.start { config with batchSchnorr := false } cache).checkAll requests
  obtain ⟨after, immediate, run⟩ := (Shadows.begin { config with batchSchnorr := true } rfl cache
    (requests.map Request.question)).checkAll room collisionless storing fun r member =>
      List.mem_map_of_mem member
  have begun : QueuePass.start { config with batchSchnorr := false } cache = ⟨none, cache⟩ := rfl
  have lengths :=
    QueuePass.length_checkAll requests (QueuePass.start { config with batchSchnorr := true } cache)
  have immediateLengths := QueuePass.length_checkAll requests ⟨none, cache⟩
  rw [begun, run.immediate] at immediateStep immediateFollows
  rw [run.immediate] at immediateLengths
  refine ⟨_, pass, _, immediate, immediatePass, step, follows.finish.1, immediateStep,
    immediateFollows.finish.1, ?_⟩
  rw [follows.finish.2, immediateFollows.finish.2]
  refine ⟨⟨lengths, immediateLengths⟩, fun good => ?_, run.ecdsa,
    fun x => run.shadows.finish_subset⟩
  have sound := (QueuePass.finish_ok_iff _).mp good
  exact ⟨(run.sound sound).2, fun x => ⟨run.shadows.finish_subset,
    run.shadows.mem_finish room sound⟩⟩

/-- A check asked twice waits twice in the one pass, and is stored once in the other. Both passes
end well with the same answers. -/
theorem Pass.batching_replaces_repeated :
    let cache : BoundedCache := { maxEntries := 2 }
    let requests : List Request := [.sample, .sample]
    (∀ r ∈ requests, r.store = true) ∧
      cache.HasRoomFor ((requests.map Request.question).map Check.fingerprint) ∧
      Collisionless (requests.map Request.question) ∧
      ∃ pass immediatePass,
        (checkAll requests).Yields (start ⟨true, 2⟩ cache) [true, true] pass ∧
        pass.pendingCount = .ok 2 ∧
        pass.finish.outcome = .ok (.ok ()) ∧
        (checkAll requests).Yields (start ⟨false, 2⟩ cache) [true, true] immediatePass ∧
        immediatePass.cache.entries = [Check.sample.fingerprint] ∧
        immediatePass.finish.outcome = .ok (.ok ()) ∧
        Replaces requests [true, true] [true, true] (.ok ()) pass.finish.state
          immediatePass.finish.state := by
  intro cache requests
  have storing : ∀ r ∈ requests, r.store = true := by
    intro r member
    rw [List.eq_of_mem_replicate (n := 2) member]
    rfl
  have room : cache.HasRoomFor ((requests.map Request.question).map Check.fingerprint) :=
    BoundedCache.HasRoomFor.of_length_le (Nat.le_refl 2)
  have collisionless : Collisionless (requests.map Request.question) :=
    Collisionless.replicate 2 .sample
  obtain ⟨answers, pass, verdict, immediate, immediatePass, run, ends, immediateRun,
    immediateEnds, replaces⟩ :=
    batching_replaces ⟨true, 2⟩ cache requests storing room collisionless
  obtain ⟨followed, step, follows⟩ := (Follows.start ⟨true, 2⟩ cache).checkAll requests
  obtain ⟨immediateFollowed, immediateStep, immediateFollows⟩ :=
    (Follows.start ⟨false, 2⟩ cache).checkAll requests
  rw [QueuePass.checkAll_repeated rfl] at step follows
  rw [QueuePass.checkAll_repeated_immediate rfl (by decide)] at immediateStep immediateFollows
  obtain ⟨rfl, rfl⟩ := run.unique step
  obtain ⟨rfl, rfl⟩ := immediateRun.unique immediateStep
  cases ends.symm.trans follows.finish.1
  exact ⟨storing, room, collisionless, pass, immediatePass, run, follows.pendingCount,
    follows.finish.1, immediateRun, congrArg BoundedCache.entries immediateFollows.same_cache,
      immediateEnds, replaces⟩

end SigValidation
