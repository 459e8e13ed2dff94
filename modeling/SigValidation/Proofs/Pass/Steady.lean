import SigValidation.Proofs.Pass.QueuePass
/-!
# What a batching pass holds on to

A batching pass whose checkers store, and whose cache has room for all of its checks, lets go of
nothing: a check that was taken is in the cache or waiting from then on (`QueuePass.Holds`), unless
a batch failed. What waits was not in the cache at the start and was taken, and what was added to
the cache is valid (`Steady`). Looking up changes nothing, and resolving keeps all this and answers
as foreseen (`Steady.resolve`).
-/
namespace SigValidation

namespace QueuePass

/-- The check is in the cache or waiting. -/
def Holds (p : QueuePass) (c : Check) : Prop :=
  c.fingerprint ∈ p.cache.entries ∨ (c, c.isValid) ∈ p.pending

/-- A checker that stores looks without changing anything. -/
theorem lookup_storing (c : Check) (p : QueuePass) :
    p.lookup true c = (decide (c.fingerprint ∈ p.cache.entries), p) := by
  rw [lookup, Bool.not_true, BoundedCache.afterGet_keep]

end QueuePass

/-- Where there is room, answering a check by the cryptography adds its entry if it is valid, and
evicts nothing. -/
theorem BoundedCache.Grown.keep {start cache : BoundedCache} {asked : List Check}
    {added : List Fingerprint} {c : Check}
    (h : Grown (asked.map Check.fingerprint) start cache added)
    (room : start.HasRoomFor (asked.map Check.fingerprint)) (member : c ∈ asked) :
    (∃ more, Grown (asked.map Check.fingerprint) start (CachingChecker.keep true c cache) more) ∧
      ∀ x, x ∈ (CachingChecker.keep true c cache).entries ↔
        (c.isValid = true ∧ x = c.fingerprint) ∨ x ∈ cache.entries := by
  unfold CachingChecker.keep
  rw [Bool.and_true]
  cases valid : c.isValid with
  | false => exact ⟨⟨added, h⟩, fun x => by simp⟩
  | true =>
    obtain ⟨growing, holds⟩ := h.insert room (List.mem_map_of_mem member)
    exact ⟨growing, fun x => by simpa using holds x⟩

/-- The answer to a check while no batch fails: yes if it is in the cache at the start or if a batch
takes it. -/
def foreseen (start : BoundedCache) (c : Check) : Bool :=
  decide (c.fingerprint ∈ start.entries) || c.item?.isSome

/-- A valid Schnorr check is always foreseen as yes. -/
theorem foreseen_of_isValid {start : BoundedCache} {c : Check} (kind : c.isSchnorr = true)
    (valid : c.isValid = true) : foreseen start c = true := by
  obtain ⟨item, read⟩ := Check.exists_item?_of_isValid kind valid
  rw [foreseen, read, Bool.or_eq_true]
  exact Or.inr rfl

/-- What holds of a batching pass, begun with the cache `start`, in which some of the checks were
made. -/
structure Steady (start : BoundedCache) (asked : List Check) (p : QueuePass) : Prop where
  batching : p.queue ≠ none
  grown : ∃ added, BoundedCache.Grown (asked.map Check.fingerprint) start p.cache added
  cached : ∀ x ∈ p.cache.entries, x ∈ start.entries ∨ ∃ c ∈ asked, c.isValid = true ∧
    c.fingerprint = x
  pending : ∀ t ∈ p.pending,
    t.1 ∈ asked ∧ t.2 = t.1.isValid ∧ t.1.fingerprint ∉ start.entries ∧ t.1.item?.isSome = true
  failed : p.usable = false → p.pending.all Prod.snd = false

/-- A pass moves on: it stays steady, lets go of nothing, and no failure is forgotten. -/
structure Advances (start : BoundedCache) (asked : List Check) (p next : QueuePass) : Prop where
  steady : Steady start asked next
  holds : ∀ c, p.Holds c → next.Holds c
  usable : next.usable = true → p.usable = true

theorem Advances.trans {start : BoundedCache} {asked : List Check} {p next last : QueuePass}
    (first : Advances start asked p next) (second : Advances start asked next last) :
    Advances start asked p last :=
  ⟨second.steady, fun c h => second.holds c (first.holds c h),
    fun h => first.usable (second.usable h)⟩

namespace Steady

variable {start : BoundedCache} {asked : List Check} {p : QueuePass} {c : Check}

theorem begin (config : Config) (batching : config.batchSchnorr = true) (cache : BoundedCache)
    (asked : List Check) : Steady cache asked (.start config cache) where
  batching := by
    rw [QueuePass.start, if_pos batching]
    simp
  grown := ⟨[], .refl _ cache⟩
  cached x held := Or.inl held
  pending := by simp
  failed := by simp

theorem refl (h : Steady start asked p) : Advances start asked p p :=
  ⟨h, fun _ held => held, fun usable => usable⟩

/-- The entries of the start are never let go. -/
theorem keeps_start (h : Steady start asked p) {x : Fingerprint} (old : x ∈ start.entries) :
    x ∈ p.cache.entries := by
  obtain ⟨added, grown⟩ := h.grown
  rw [grown.entries_eq]
  exact List.mem_append_left _ old

/-- An ECDSA check never waits. -/
theorem mem_of_holds (h : Steady start asked p) (holds : p.Holds c) (kind : c.isSchnorr = false) :
    c.fingerprint ∈ p.cache.entries := by
  rcases holds with cached | waits
  · exact cached
  · obtain ⟨item, read⟩ := Option.isSome_iff_exists.mp (h.pending _ waits).2.2.2
    rw [Check.isSchnorr_of_item? read] at kind
    cases kind

/-- A check that is found was found at the start or is valid, so its answer was foreseen. -/
theorem foreseen_of_mem (h : Steady start asked p) (collisionless : Collisionless asked)
    (kind : c.isSchnorr = true) (member : c ∈ asked) (held : c.fingerprint ∈ p.cache.entries) :
    foreseen start c = true := by
  rcases h.cached _ held with old | ⟨other, asked_too, valid, same⟩
  · rw [foreseen, decide_eq_true old, Bool.true_or]
  · rw [← collisionless.eq_of_fingerprint_eq member asked_too kind same.symm] at valid
    exact foreseen_of_isValid kind valid

/-- A check that is queued waits behind the others. -/
theorem push (h : Steady start asked p) {q : OneQueue Check} (held : p.queue = some q)
    (usable : p.usable = true) (member : c ∈ asked) (missed : c.fingerprint ∉ start.entries)
    (read : c.item?.isSome = true) :
    Advances start asked p { p with queue := some (q.push c c.isValid) } ∧
      QueuePass.Holds { p with queue := some (q.push c c.isValid) } c := by
  have pending := QueuePass.pending_push held c c.isValid
  have steady : Steady start asked { p with queue := some (q.push c c.isValid) } := by
    constructor
    case batching => simp
    case grown => exact h.grown
    case cached => exact h.cached
    case pending =>
      intro t waits
      rcases QueuePass.mem_pending_push held waits with old | rfl
      · exact h.pending t old
      · exact ⟨member, rfl, missed, read⟩
    case failed =>
      intro unusable
      rw [QueuePass.usable_push held, usable] at unusable
      cases unusable
  constructor
  · refine ⟨steady, ?_, fun _ => usable⟩
    rintro d (cached | waits)
    · exact Or.inl cached
    · right
      rw [pending]
      exact List.mem_append_left _ waits
  · right
    rw [pending]
    exact List.mem_append_right _ (List.mem_singleton_self _)

/-- A flush moves all that waits into the cache. -/
theorem flush (h : Steady start asked p) (room : start.HasRoomFor (asked.map Check.fingerprint))
    (usable : p.usable = true) (sound : p.pending.all Prod.snd = true) (committed : List Check) :
    Advances start asked p
      ⟨some ⟨[], committed, true⟩, putAll (p.pending.map fun t => t.1.fingerprint) p.cache⟩ := by
  obtain ⟨added, grown⟩ := h.grown
  have known : (p.pending.map fun t => t.1.fingerprint) ⊆ asked.map Check.fingerprint := by
    intro x hx
    obtain ⟨t, waits, rfl⟩ := List.mem_map.mp hx
    exact List.mem_map_of_mem (h.pending t waits).1
  obtain ⟨growing, holds⟩ := grown.putAll room known
  constructor
  case steady =>
    constructor
    case batching => simp
    case grown => exact growing
    case cached =>
      intro x held
      rcases QueuePass.mem_of_mem_flushed sound held with old | ⟨t, waits, valid, rfl⟩
      · exact h.cached x old
      · obtain ⟨member, verdict, _⟩ := h.pending t waits
        exact Or.inr ⟨t.1, member, verdict.symm.trans valid, rfl⟩
    case pending =>
      intro t waits
      cases waits
    case failed =>
      intro unusable
      cases unusable
  case holds =>
    rintro d (cached | waits)
    · exact Or.inl ((holds _).mpr (Or.inr cached))
    · exact Or.inl ((holds _).mpr (Or.inl (List.mem_map.mpr ⟨_, waits, rfl⟩)))
  case usable => exact fun _ => usable

/-- A check that is answered by the cryptography comes into the cache if it is valid. -/
theorem keep (h : Steady start asked p) (room : start.HasRoomFor (asked.map Check.fingerprint))
    (member : c ∈ asked) :
    Advances start asked p { p with cache := CachingChecker.keep true c p.cache } := by
  obtain ⟨added, grown⟩ := h.grown
  obtain ⟨growing, holds⟩ := grown.keep room member
  constructor
  case steady =>
    constructor
    case batching => exact h.batching
    case grown => exact growing
    case cached =>
      intro x held
      rcases (holds x).mp held with ⟨valid, rfl⟩ | old
      · exact Or.inr ⟨c, member, valid, rfl⟩
      · exact h.cached x old
    case pending => exact h.pending
    case failed => exact h.failed
  case holds => exact fun d held => held.imp_left fun cached => (holds _).mpr (Or.inr cached)
  case usable => exact fun usable => usable

/-- A batch that fails keeps what waits. -/
theorem fail (h : Steady start asked p) {q : OneQueue Check} (held : p.queue = some q)
    (unsound : p.pending.all Prod.snd = false) :
    Advances start asked p { p with queue := some { q with usable := false } } := by
  have same := QueuePass.pending_fail held
  constructor
  case steady =>
    constructor
    case batching => simp
    case grown => exact h.grown
    case cached => exact h.cached
    case pending =>
      rw [same]
      exact h.pending
    case failed =>
      rw [same]
      exact fun _ => unsound
  case holds =>
    rintro d (cached | waits)
    · exact Or.inl cached
    · right
      rw [same]
      exact waits
  case usable =>
    intro usable
    cases usable

/-- Unless a batch fails, resolving a check answers as foreseen, and what is answered with yes is
held from then on. -/
theorem resolve (h : Steady start asked p) (room : start.HasRoomFor (asked.map Check.fingerprint))
    (kind : c.isSchnorr = true) (member : c ∈ asked) (missed : c.fingerprint ∉ start.entries) :
    Advances start asked p (p.resolve true c).2 ∧
      ((p.resolve true c).2.usable = true →
        (p.resolve true c).1 = foreseen start c ∧
        (foreseen start c = true → (p.resolve true c).2.Holds c)) := by
  have foreseeing : foreseen start c = c.item?.isSome := by
    rw [foreseen, decide_eq_false missed, Bool.false_or]
  rw [foreseeing]
  have step := QueuePass.resolved true c p
  generalize p.resolve true c = next at step
  cases step with
  | alone undeferred =>
    rcases undeferred with immediate | other
    · exact absurd immediate h.batching
    · rw [kind] at other
      cases other
  | malformed _ unread =>
    refine ⟨h.refl, fun _ => ?_⟩
    rw [unread]
    exact ⟨rfl, fun taken => by cases taken⟩
  | unusable unusable =>
    refine ⟨h.refl, fun usable => ?_⟩
    rw [unusable] at usable
    cases usable
  | queued held read usable =>
    rw [read]
    obtain ⟨advances, holds⟩ := h.push held usable member missed (by rw [read]; rfl)
    exact ⟨advances, fun _ => ⟨rfl, fun _ => holds⟩⟩
  | @flushed q item committed held read usable sound =>
    rw [read]
    have flushing := h.flush room usable sound committed
    obtain ⟨advances, holds⟩ := flushing.steady.push rfl rfl member missed (by rw [read]; rfl)
    exact ⟨flushing.trans advances, fun _ => ⟨rfl, fun _ => holds⟩⟩
  | failed held unsound => exact ⟨h.fail held unsound, fun usable => by cases usable⟩

end Steady

end SigValidation
