import SigValidation.Proofs.Pass.Steady
/-!
# Interleavings of a batching pass

Workers that share a batching pass interleave the phases of their checks. Which batch a signature
falls into, whose turn flushes it, and whether a check is queued twice or found in the cache, all
depend on the schedule. The verdict does not, and after a good one neither do the answers nor the
entries that the cache is left with (`Crew.interleavings_agree`).

Under every schedule the pass stays steady, and each worker has made a part of its share with the
answers foreseen (`Orderly`). Once all workers are done, this says what became of every check,
whatever the schedule was.
-/
namespace SigValidation

def questions (shares : List (List Request)) : List Check := shares.flatten.map Request.question

theorem mem_questions {shares : List (List Request)} {share : List Request} {r : Request}
    (given : share ∈ shares) (member : r ∈ share) : r.question ∈ questions shares :=
  List.mem_map_of_mem (List.mem_flatten_of_mem given member)

/-- Every worker makes Schnorr checks that store, no two fingerprints collide, and the cache has
room for them all. -/
structure Workload (start : BoundedCache) (shares : List (List Request)) : Prop where
  schnorr : ∀ share ∈ shares, ∀ r ∈ share, r.question.isSchnorr = true
  storing : ∀ share ∈ shares, ∀ r ∈ share, r.store = true
  collisionless : Collisionless (questions shares)
  room : start.HasRoomFor ((questions shares).map Check.fingerprint)

theorem Workload.isSchnorr {start : BoundedCache} {shares : List (List Request)}
    (load : Workload start shares) {c : Check} (asked : c ∈ questions shares) :
    c.isSchnorr = true := by
  obtain ⟨r, member, rfl⟩ := List.mem_map.mp asked
  obtain ⟨share, given, belongs⟩ := List.mem_flatten.mp member
  exact load.schnorr share given r belongs

/-- The worker has made a part of its share. Unless a batch failed, the answers are as foreseen and
the pass holds every check that was answered with yes. -/
def Worker.Keeps (start : BoundedCache) (p : QueuePass) (share : List Request) (w : Worker) :
    Prop :=
  ∃ made, share = made ++ (w.missed.toList ++ w.todo) ∧
    (∀ r ∈ w.missed, r.question.fingerprint ∉ start.entries) ∧
    (p.usable = true → w.answers = made.map (fun r => foreseen start r.question) ∧
      ∀ r ∈ made, foreseen start r.question = true → p.Holds r.question)

namespace Worker.Keeps

variable {start : BoundedCache} {asked : List Check} {p next : QueuePass}
  {share rest : List Request} {w : Worker}
  {r : Request}

/-- What other workers do takes nothing from a worker. -/
theorem advance (h : w.Keeps start p share) (advances : Advances start asked p next) :
    w.Keeps start next share := by
  obtain ⟨made, split, missed, said⟩ := h
  refine ⟨made, split, missed, fun usable => ?_⟩
  obtain ⟨answers, holds⟩ := said (advances.usable usable)
  exact ⟨answers, fun r member yes => advances.holds _ (holds r member yes)⟩

/-- The check that a worker makes belongs to its share. -/
theorem mem_of_todo (h : w.Keeps start p share) (todo : w.todo = r :: rest) : r ∈ share := by
  obtain ⟨made, split, _⟩ := h
  rw [split, todo]
  simp

theorem mem_of_missed (h : w.Keeps start p share) (missed : w.missed = some r) : r ∈ share := by
  obtain ⟨made, split, _⟩ := h
  rw [split, missed]
  simp

/-- What a worker missed was not in the cache at the start. -/
theorem not_mem_of_missed (h : w.Keeps start p share) (missed : w.missed = some r) :
    r.question.fingerprint ∉ start.entries := by
  obtain ⟨made, _, absent, _⟩ := h
  exact absent r missed

/-- A check that is found was answered with yes. -/
theorem found (h : w.Keeps start p share) (todo : w.todo = r :: rest) (missed : w.missed = none)
    (held : r.question.fingerprint ∈ p.cache.entries)
    (foreseeing : foreseen start r.question = true) :
    (w.looked true r rest).Keeps start p share := by
  obtain ⟨made, split, _, said⟩ := h
  refine ⟨made ++ [r], ?_, ?_, fun usable => ⟨?_, ?_⟩⟩
  · rw [split, todo, missed, looked, if_pos rfl]
    simp [missed]
  · simp [looked, missed]
  · rw [List.map_append, ← (said usable).1]
    simp [looked, foreseeing]
  · intro other member yes
    rcases List.mem_append.mp member with old | new
    · exact (said usable).2 other old yes
    · cases List.mem_singleton.mp new
      exact Or.inl held

/-- A check that is missed is not made yet. -/
theorem miss (h : w.Keeps start p share) (todo : w.todo = r :: rest) (missed : w.missed = none)
    (absent : r.question.fingerprint ∉ start.entries) :
    (w.looked false r rest).Keeps start p share := by
  obtain ⟨made, split, _, said⟩ := h
  refine ⟨made, ?_, ?_, said⟩
  · rw [split, todo, missed]
    rfl
  · intro other is_missed
    cases is_missed
    exact absent

theorem resolve {answer : Bool} (h : w.Keeps start p share) (missed : w.missed = some r)
    (advances : Advances start asked p next)
    (result : next.usable = true → answer = foreseen start r.question ∧
      (foreseen start r.question = true → next.Holds r.question)) :
    (w.resolved answer).Keeps start next share := by
  obtain ⟨made, split, _, said⟩ := h.advance advances
  refine ⟨made ++ [r], ?_, ?_, fun usable => ⟨?_, ?_⟩⟩
  · rw [split, missed]
    simp [Worker.resolved]
  · simp [Worker.resolved]
  · rw [List.map_append, ← (said usable).1, List.map_singleton, ← (result usable).1]
    rfl
  · intro other member yes
    rcases List.mem_append.mp member with old | new
    · exact (said usable).2 other old yes
    · cases List.mem_singleton.mp new
      exact (result usable).2 yes

/-- A worker that is done has made its whole share. -/
theorem of_isDone (h : w.Keeps start p share) (done : w.isDone = true) (usable : p.usable = true) :
    w.answers = share.map (fun r => foreseen start r.question) ∧
      ∀ r ∈ share, foreseen start r.question = true → p.Holds r.question := by
  obtain ⟨made, split, _, said⟩ := h
  rw [Worker.isDone, Bool.and_eq_true, List.isEmpty_iff, Option.isNone_iff_eq_none] at done
  rw [done.1, done.2, Option.toList_none, List.append_nil, List.append_nil] at split
  rw [split]
  exact said usable

end Worker.Keeps

/-- The crew's pass is the one with a queue, which is steady, and every worker has made a part of
its share. -/
structure Orderly (start : BoundedCache) (shares : List (List Request)) (crew : Crew BoundedCache)
    (p : QueuePass) : Prop where
  follows : Follows crew.pass p
  steady : Steady start (questions shares) p
  length_eq : crew.workers.length = shares.length
  keeps : ∀ (i : Nat) (w : Worker) (share : List Request),
    crew.workers[i]? = some w → shares[i]? = some share → w.Keeps start p share

namespace Orderly

variable {start : BoundedCache} {shares : List (List Request)} {crew : Crew BoundedCache}
  {p next : QueuePass}

theorem begin (config : Config) (batching : config.batchSchnorr = true) (start : BoundedCache)
    (shares : List (List Request)) :
    Orderly start shares (Crew.start config start shares) (.start config start) where
  follows := .start config start
  steady := .begin config batching start (questions shares)
  length_eq := List.length_map _
  keeps i w share hw hs := by
    rw [Crew.start, List.getElem?_map, hs] at hw
    cases hw
    exact ⟨[], rfl, by simp, fun _ => ⟨rfl, by simp⟩⟩

/-- One worker's progress leaves the others where they are. -/
theorem replace (h : Orderly start shares crew p) {pass : Pass BoundedCache} {i : Nat} {w : Worker}
    {share : List Request} (follows : Follows pass next)
    (advances : Advances start (questions shares) p next) (given : shares[i]? = some share)
    (keeps : w.Keeps start next share) :
    Orderly start shares ((crew.withPass pass).withWorker i w) next where
  follows := follows
  steady := advances.steady
  length_eq := by
    rw [← h.length_eq]
    exact List.length_set
  keeps j v other hv ho := by
    change (crew.workers.set i w)[j]? = some v at hv
    rw [List.getElem?_set] at hv
    split at hv
    · rename_i same
      rw [← same, given] at ho
      cases ho
      split at hv
      · cases hv
        exact keeps
      · cases hv
    · exact (h.keeps j v other hv ho).advance advances

theorem exists_share (h : Orderly start shares crew p) {i : Nat} {w : Worker}
    (hw : crew.workers[i]? = some w) : ∃ share, shares[i]? = some share := by
  obtain ⟨inside, _⟩ := List.getElem?_eq_some_iff.mp hw
  rw [h.length_eq] at inside
  exact ⟨shares[i], List.getElem?_eq_getElem inside⟩

/-- The turn of a worker whose check was looked up in vain. -/
theorem turn_resolve (h : Orderly start shares crew p) (load : Workload start shares) {i : Nat}
    {w : Worker} {r : Request} (hw : crew.workers[i]? = some w) (hm : w.missed = some r) :
    ∃ after next, (Crew.turn i).Yields crew () after ∧ Orderly start shares after next := by
  obtain ⟨share, hs⟩ := h.exists_share hw
  have given : share ∈ shares := List.mem_of_getElem? hs
  have keeps := h.keeps i w share hw hs
  have member := keeps.mem_of_missed hm
  have kind := load.schnorr share given r member
  obtain ⟨advances, result⟩ :=
    h.steady.resolve load.room kind (mem_questions given member) (keeps.not_mem_of_missed hm)
  obtain ⟨pass, step, follows⟩ := h.follows.resolve r.base r.store r.question
  rw [load.storing share given r member] at step follows
  refine ⟨_, _, ?_, h.replace follows advances hs (keeps.resolve hm advances result)⟩
  apply (Routine.yields_state crew).bind
  simp only [hw, hm]
  rw [load.storing share given r member]
  exact (Crew.yields_onPass step).bind (Routine.yields_modify _ _)

/-- The turn of a worker that looks its next check up. -/
theorem turn_lookup (h : Orderly start shares crew p) (load : Workload start shares) {i : Nat}
    {w : Worker} {r : Request} {rest : List Request} (hw : crew.workers[i]? = some w)
    (hm : w.missed = none) (ht : w.todo = r :: rest) :
    ∃ after next, (Crew.turn i).Yields crew () after ∧ Orderly start shares after next := by
  obtain ⟨share, hs⟩ := h.exists_share hw
  have given : share ∈ shares := List.mem_of_getElem? hs
  have keeps := h.keeps i w share hw hs
  have member := keeps.mem_of_todo ht
  have kind := load.schnorr share given r member
  have progress : (w.looked (decide (r.question.fingerprint ∈ p.cache.entries)) r rest).Keeps
    start p share := by
    by_cases held : r.question.fingerprint ∈ p.cache.entries
    · rw [decide_eq_true held]
      have foreseeing :=
        h.steady.foreseen_of_mem load.collisionless kind (mem_questions given member) held
      exact keeps.found ht hm held foreseeing
    · rw [decide_eq_false held]
      exact keeps.miss ht hm fun old => held (h.steady.keeps_start old)
  obtain ⟨pass, step, follows⟩ := h.follows.lookup r.base r.store r.question
  rw [load.storing share given r member, QueuePass.lookup_storing] at step follows
  refine ⟨_, _, ?_, h.replace follows h.steady.refl hs progress⟩
  apply (Routine.yields_state crew).bind
  simp only [hw, hm, ht]
  rw [load.storing share given r member]
  exact (Crew.yields_onPass step).bind (Routine.yields_modify _ _)

/-- A turn of any worker, with work left or without. -/
theorem turn (h : Orderly start shares crew p) (load : Workload start shares) (i : Nat) :
    ∃ after next, (Crew.turn i).Yields crew () after ∧ Orderly start shares after next := by
  cases hw : crew.workers[i]? with
  | none =>
    refine ⟨crew, p, ?_, h⟩
    apply (Routine.yields_state crew).bind
    rw [hw]
    exact Routine.yields_pure () crew
  | some w =>
    cases hm : w.missed with
    | some r => exact h.turn_resolve load hw hm
    | none =>
      cases ht : w.todo with
      | cons r rest => exact h.turn_lookup load hw hm ht
      | nil =>
        refine ⟨crew, p, ?_, h⟩
        apply (Routine.yields_state crew).bind
        simp only [hw, hm, ht]
        exact Routine.yields_pure () crew

/-- Whatever the schedule, the crew stays orderly, and no turn panics. -/
theorem play (h : Orderly start shares crew p) (load : Workload start shares)
    (schedule : List Nat) :
    ∃ after next, (Crew.play schedule).Yields crew () after ∧ Orderly start shares after next := by
  induction schedule generalizing crew p with
  | nil => exact ⟨crew, p, Routine.yields_pure () crew, h⟩
  | cons i rest ih =>
    obtain ⟨between, middle, first, orderly⟩ := h.turn load i
    obtain ⟨after, next, later, ends⟩ := ih orderly
    exact ⟨after, next, first.bind later, ends⟩

section Done

variable (h : Orderly start shares crew p) (done : crew.isDone = true)

include h done

/-- Once all workers are done and no batch has failed, every answer is as foreseen. -/
theorem answers_eq (usable : p.usable = true) :
    crew.workers.map Worker.answers = shares.map fun share =>
      share.map fun r => foreseen start r.question := by
  apply List.ext_getElem
  · rw [List.length_map, List.length_map, h.length_eq]
  · intro i inside inside'
    rw [List.length_map] at inside inside'
    rw [List.getElem_map, List.getElem_map]
    have keeps := h.keeps i _ _ (List.getElem?_eq_getElem inside) (List.getElem?_eq_getElem inside')
    exact (keeps.of_isDone (List.all_eq_true.mp done _ (List.getElem_mem inside)) usable).1

/-- Unless a batch failed, the pass holds every check that was answered with yes. -/
theorem holds_of_foreseen (usable : p.usable = true) {c : Check} (asked : c ∈ questions shares)
    (yes : foreseen start c = true) : p.Holds c := by
  obtain ⟨r, member, rfl⟩ := List.mem_map.mp asked
  obtain ⟨share, given, belongs⟩ := List.mem_flatten.mp member
  obtain ⟨i, inside, rfl⟩ := List.getElem_of_mem given
  have inside' : i < crew.workers.length := by rw [h.length_eq]; exact inside
  have keeps := h.keeps i _ _ (List.getElem?_eq_getElem inside') (List.getElem?_eq_getElem inside)
  exact (keeps.of_isDone (List.all_eq_true.mp done _ (List.getElem_mem inside')) usable).2
    r belongs yes

/-- The verdict is good if every check that a batch takes is valid or in the cache at the start. -/
theorem finish_ok_iff (load : Workload start shares) :
    p.finish.1 = .ok () ↔
      ∀ c ∈ questions shares, foreseen start c = true → c.fingerprint ∈ start.entries ∨
        c.isValid = true := by
  rw [QueuePass.finish_ok_iff]
  constructor
  · rintro ⟨usable, sound⟩ c asked yes
    rcases h.holds_of_foreseen done usable asked yes with cached | waits
    · rcases h.steady.cached _ cached with old | ⟨other, asked_too, valid, same⟩
      · exact Or.inl old
      · right
        rw [load.collisionless.eq_of_fingerprint_eq asked asked_too
          (load.isSchnorr asked) same.symm]
        exact valid
    · exact Or.inr (List.all_eq_true.mp sound _ waits)
  · intro flawless
    have sound : p.pending.all Prod.snd = true := by
      rw [List.all_eq_true]
      intro t waits
      obtain ⟨asked, verdict, absent, taken⟩ := h.steady.pending t waits
      have yes : foreseen start t.1 = true := by rw [foreseen, taken, Bool.or_true]
      rw [verdict]
      exact (flawless t.1 asked yes).resolve_left absent
    refine ⟨?_, sound⟩
    cases usable : p.usable with
    | true => rfl
    | false =>
      rw [h.steady.failed usable] at sound
      cases sound

theorem finish_of_isValid (load : Workload start shares)
    (valid : ∀ c ∈ questions shares, c.isValid = true) :
    crew.pass.finish.outcome = .ok (.ok ()) := by
  rw [h.follows.finish.1, (h.finish_ok_iff done load).mpr fun c asked _ => Or.inr (valid c asked)]

/-- After a good verdict the cache holds what it held at the start and the fingerprints of the valid
checks. -/
theorem mem_finish_iff (load : Workload start shares) (good : p.finish.1 = .ok ())
    (x : Fingerprint) :
    x ∈ p.finish.2.entries ↔
      x ∈ start.entries ∨ ∃ c ∈ questions shares, c.isValid = true ∧ c.fingerprint = x := by
  have committed := (QueuePass.finish_ok_iff p).mp good
  have flushing := h.steady.flush load.room committed.1 committed.2 []
  rw [QueuePass.finish_eq, if_pos committed]
  constructor
  · exact flushing.steady.cached x
  · rintro (old | ⟨c, asked, valid, rfl⟩)
    · exact flushing.steady.keeps_start old
    · have yes : foreseen start c = true := foreseen_of_isValid (load.isSchnorr asked) valid
      rcases flushing.holds c (h.holds_of_foreseen done committed.1 asked yes) with cached | waits
      · exact cached
      · cases waits

end Done

end Orderly

/-- What two ways of playing have in common, once each is followed by the end of the pass. -/
structure Crew.Agree (one two : Reply Event (Crew BoundedCache) Unit) : Prop where
  played : one.outcome = .ok () ∧ two.outcome = .ok ()
  /-- Both passes end, well or badly alike. After a good end every check has one answer in both, and
  the caches hold the same entries. -/
  finished : ∃ verdict verdict', one.state.pass.finish.outcome = .ok verdict ∧
    two.state.pass.finish.outcome = .ok verdict' ∧ (verdict = .ok () ↔ verdict' = .ok ()) ∧
    (verdict = .ok () →
      one.state.workers.map Worker.answers = two.state.workers.map Worker.answers ∧
      ∀ x, x ∈ one.state.pass.finish.state.entries ↔ x ∈ two.state.pass.finish.state.entries)

/-- Any two schedules that let all workers finish agree. -/
theorem Crew.interleavings_agree (config : Config) (batching : config.batchSchnorr = true)
    (start : BoundedCache) (shares : List (List Request)) (load : Workload start shares)
    (schedule other : List Nat)
    (done : ((play schedule).run (Crew.start config start shares)).state.isDone = true)
    (other_done : ((play other).run (Crew.start config start shares)).state.isDone = true) :
    Agree ((play schedule).run (Crew.start config start shares))
      ((play other).run (Crew.start config start shares)) := by
  have begins := Orderly.begin config batching start shares
  obtain ⟨crew, p, played, orderly⟩ := begins.play load schedule
  obtain ⟨crew', p', played', orderly'⟩ := begins.play load other
  rw [played.state_eq] at done
  rw [played'.state_eq] at other_done
  have verdict := orderly.finish_ok_iff done load
  have verdict' := orderly'.finish_ok_iff other_done load
  refine ⟨⟨played.outcome_eq, played'.outcome_eq⟩, p.finish.1, p'.finish.1, ?_⟩
  rw [played.state_eq, played'.state_eq]
  refine ⟨orderly.follows.finish.1, orderly'.follows.finish.1, verdict.trans verdict'.symm,
    fun good => ?_⟩
  have good' := verdict'.mpr (verdict.mp good)
  have usable := ((QueuePass.finish_ok_iff p).mp good).1
  have usable' := ((QueuePass.finish_ok_iff p').mp good').1
  refine ⟨?_, fun x => ?_⟩
  · rw [orderly.answers_eq done usable, orderly'.answers_eq other_done usable']
  · rw [orderly.follows.finish.2, orderly'.follows.finish.2, orderly.mem_finish_iff done load good,
      orderly'.mem_finish_iff other_done load good']

/-- Two workers look one check up before either queues it, so that it waits twice. Their answers and
the verdict are the same as where one worker comes after the other. -/
theorem Crew.interleavings_agree_both_missing :
    let crew := Crew.start ⟨true, 2⟩ ({ maxEntries := 2 } : BoundedCache) [[.sample], [.sample]]
    let both := (play [0, 1, 0, 1]).run crew
    let single := (play [0, 0, 1, 1]).run crew
    both.state.isDone = true ∧ single.state.isDone = true ∧
      ((play [0, 1]).run crew).state.workers.all (fun w => w.missed.isSome) = true ∧
      both.state.pass.pendingCount = .ok 2 ∧
      both.state.workers.map Worker.answers = [[true], [true]] ∧
      both.state.pass.finish.outcome = .ok (.ok ()) ∧ Agree both single := by
  intro crew both single
  have done : both.state.isDone = true := by decide +kernel
  have other_done : single.state.isDone = true := by decide +kernel
  have load : Workload { maxEntries := 2 } [[.sample], [.sample]] := by
    constructor
    case schnorr => simp [Request.sample, Check.sample, Check.isSchnorr]
    case storing => simp [Request.sample]
    case collisionless => exact Collisionless.replicate 2 .sample
    case room => exact BoundedCache.HasRoomFor.of_length_le (Nat.le_refl 2)
  have valid : ∀ c ∈ questions [[Request.sample], [.sample]], c.isValid = true := by
    intro c asked
    rw [List.eq_of_mem_replicate (n := 2) asked]
    exact Check.isValid_sample
  have missed : ((play [0, 1]).run crew).state.workers.all (fun w => w.missed.isSome) = true := by
    decide +kernel
  have pending : both.state.pass.pendingCount = .ok 2 := by decide +kernel
  have answers : both.state.workers.map Worker.answers = [[true], [true]] := by decide +kernel
  obtain ⟨after, p, played, orderly⟩ :=
    (Orderly.begin ⟨true, 2⟩ rfl { maxEntries := 2 } [[.sample], [.sample]]).play load [0, 1, 0, 1]
  have ends : both.state.pass.finish.outcome = .ok (.ok ()) := by
    have same : both.state = after := played.state_eq
    rw [same] at done ⊢
    exact orderly.finish_of_isValid done load valid
  exact ⟨done, other_done, missed, pending, answers, ends,
    interleavings_agree ⟨true, 2⟩ rfl { maxEntries := 2 } [[.sample], [.sample]] load
      [0, 1, 0, 1] [0, 0, 1, 1] done other_done⟩

end SigValidation
