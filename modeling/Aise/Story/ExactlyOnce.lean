import Aise.Story.FactValues

/-! A turn is committed once. Whatever is committed to a story, and however often, its turns follow
each other without a gap, and a commit that was made before is answered as it was then. -/
namespace Aise.Domain.Persistence

/-! ### Sequences -/

theorem lastSequence_le {segments : BTreeMap Nat StoredSegment} {bound : Nat}
    (each : ∀ sequence ∈ segments, sequence ≤ bound) : lastSequence segments ≤ bound := by
  have smaller : ∀ (keys : List Nat) (start : Nat), start ≤ bound → (∀ key ∈ keys, key ≤ bound) →
      keys.foldl max start ≤ bound := by
    intro keys
    induction keys with
    | nil => exact fun start below _ => below
    | cons key keys ih =>
      intro start below each
      obtain ⟨here, later⟩ := List.forall_mem_cons.mp each
      exact ih (max start key) (max_le below here) later
  exact smaller segments.keys 0 (Nat.zero_le _) fun key member =>
    each key (Std.ExtTreeMap.mem_keys.mp member)

/-- Without gaps, the next sequence follows the number of segments. -/
theorem nextSequenceOf_eq_ok {segments : BTreeMap Nat StoredSegment} {count : Nat}
    {sequence : { sequence : Nat // 0 < sequence ∧ sequence < 2 ^ 63 }}
    (gapless : ∀ other, other ∈ segments ↔ 1 ≤ other ∧ other ≤ count) (positive : 0 < count)
    (ok : nextSequenceOf segments = .ok sequence) : sequence.1 = count + 1 := by
  unfold nextSequenceOf at ok
  split at ok
  · cases ok
    have most : lastSequence segments ≤ count :=
      lastSequence_le fun other member => ((gapless other).mp member).2
    have least := le_lastSequence ((gapless count).mpr ⟨positive, le_refl count⟩)
    exact congrArg (· + 1) (le_antisymm most least)
  · cases ok

theorem int64_succ {revision : Int64} (less : revision < revision + 1) :
    (revision + 1).toInt = revision.toInt + 1 := by
  rw [Int64.lt_iff_toInt_lt] at less
  have below := Int64.toInt_lt revision
  have above := Int64.le_toInt revision
  rw [Int64.toInt_add, Int64.toInt_one] at less ⊢
  simp only [Int.bmod_def] at less ⊢
  omega

section
variable (around : Surroundings)

/-- The rows after a call of `commit_turn`. The transaction of a call that fails is rolled back. -/
def afterCommit (story : StoredStory) (spec : TurnCommitSpec) : StoredStory :=
  match commitTurn around.uuids spec story with
  | .ok (_, next) => next
  | .error _ => story

/-- The rows after calls of any clients, one transaction after the other. -/
def afterCommits (start : StoredStory) (specs : List TurnCommitSpec) : StoredStory :=
  specs.foldl (afterCommit around) start

/-- Turns, revision and segments of a story that has begun with `start`. -/
structure OnceEach (start story : StoredStory) : Prop where
  identity : story.storyId = start.storyId
  numbers : story.turns.map (·.turnNumber.get.toNat) = List.range' 1 story.turns.length
  last : story.lastTurnNumber.get.toNat = story.turns.length
  keys : (story.turns.map (·.idempotencyKey)).Nodup
  revision : story.revision.toInt = start.revision.toInt + story.turns.length
  segments : ∀ sequence, sequence ∈ story.segments ↔ 1 ≤ sequence ∧ sequence ≤ story.turns.length + 1
  opening : ∃ text, story.segments[1]? = some ⟨.opening, text⟩
  placed : ∀ turn ∈ story.turns, story.segments[turn.turnNumber.get.toNat + 1]? =
    some ⟨.turn turn.turnNumber, turn.result.storyText⟩

/-- What a call of `commit_turn` returns, and the rows that it leaves. -/
structure Answers (story : StoredStory) (spec : TurnCommitSpec) : Prop where
  replayed : ∀ turn ∈ story.turns, turn.idempotencyKey = spec.idempotencyKey →
    commitTurn around.uuids spec story =
        (if turn.requestDigest = spec.requestDigest then .ok (turn.result, story)
          else .error .idempotencyConflict) ∧
      afterCommit around story spec = story
  stale : (∀ turn ∈ story.turns, turn.idempotencyKey ≠ spec.idempotencyKey) →
    (spec.baseRevision.toNat : Int) ≠ story.revision.toInt ∨
        spec.turnNumber.get.toNat ≠ story.turns.length + 1 →
      commitTurn around.uuids spec story = .error .revisionConflict
  added : (∀ turn ∈ story.turns, turn.idempotencyKey ≠ spec.idempotencyKey) →
    ∀ result next, commitTurn around.uuids spec story = .ok (result, next) →
      next.turns = story.turns ++
        [⟨spec.turnNumber, spec.idempotencyKey, spec.requestDigest, result⟩]
  failed : ∀ error, commitTurn around.uuids spec story = .error error →
    afterCommit around story spec = story

end

/-! ### One call -/

section
variable {uuids : UuidReader} {around : Surroundings}
  {spec : TurnCommitSpec} {start story next : StoredStory} {result : CommittedTurnResult}

theorem planCommit_result {plan : CommitPlan spec story}
    (planned : planCommit uuids spec story = .ok plan) :
    plan.result.storyText = spec.changes.storyText.value := by
  unfold planCommit at planned
  dsimp only at planned
  split at planned
  · cases planned
  · obtain ⟨_, _, planned⟩ := Result.bind_eq_ok planned
    obtain ⟨_, _, planned⟩ := Result.bind_eq_ok planned
    obtain ⟨_, _, planned⟩ := Result.bind_eq_ok planned
    obtain ⟨_, _, planned⟩ := Result.bind_eq_ok planned
    obtain ⟨_, _, planned⟩ := Result.bind_eq_ok planned
    obtain ⟨_, _, planned⟩ := Result.bind_eq_ok planned
    obtain ⟨_, _, planned⟩ := Result.bind_eq_ok planned
    obtain ⟨_, _, planned⟩ := Result.bind_eq_ok planned
    cases planned
    rfl

theorem writeCommit_turns {plan : CommitPlan spec story}
    (written : writeCommit uuids plan = .ok next) : next.turns = story.turns ++
      [⟨spec.turnNumber, spec.idempotencyKey, spec.requestDigest, plan.result⟩] := by
  unfold writeCommit at written
  obtain ⟨_, _, written⟩ := Result.bind_eq_ok written
  obtain ⟨_, _, written⟩ := Result.bind_eq_ok written
  split at written
  · cases written
  · obtain ⟨_, _, written⟩ := Result.bind_eq_ok written
    obtain ⟨_, _, written⟩ := Result.bind_eq_ok written
    obtain ⟨_, _, written⟩ := Result.bind_eq_ok written
    cases written
    rfl

/-- A turn with a new key is added to those of the story. -/
theorem commitTurn_adds
    (fresh : story.turns.find? (·.idempotencyKey = spec.idempotencyKey) = none)
    (committed : commitTurn uuids spec story = .ok (result, next)) :
    next.turns = story.turns ++
        [⟨spec.turnNumber, spec.idempotencyKey, spec.requestDigest, result⟩] ∧
      result.storyText = spec.changes.storyText.value := by
  unfold commitTurn at committed
  split at committed
  · cases committed
  · rw [fresh] at committed
    obtain ⟨plan, planned, committed⟩ := Result.bind_eq_ok committed
    obtain ⟨rows, written, committed⟩ := Result.bind_eq_ok committed
    cases committed
    exact ⟨writeCommit_turns written, planCommit_result planned⟩

theorem find_key_eq_none :
    story.turns.find? (·.idempotencyKey = spec.idempotencyKey) = none ↔
      ∀ turn ∈ story.turns, turn.idempotencyKey ≠ spec.idempotencyKey := by
  simp only [List.find?_eq_none, decide_eq_true_eq, ne_eq]

theorem Commits.revision_toInt (commits : Commits uuids spec story next) :
    next.revision.toInt = story.revision.toInt + 1 := by
  obtain ⟨committed, following', written, less⟩ := commits.revision
  have base : spec.baseRevision.toInt64 = story.revision := by
    rw [← commits.based.2, Int64.toInt64_toUInt64]
  unfold following at following'
  split at following'
  · cases following'
    rw [UInt64.toInt64_add, base] at written less
    rw [written]
    exact int64_succ less
  · cases following'

/-- A call that is answered at all either adds the next turn or finds its own. -/
theorem commitTurn_cases (committed : commitTurn uuids spec story = .ok (result, next)) :
    next = story ∨ (∀ turn ∈ story.turns, turn.idempotencyKey ≠ spec.idempotencyKey) ∧
      Commits uuids spec story next ∧
      next.turns = story.turns ++
        [⟨spec.turnNumber, spec.idempotencyKey, spec.requestDigest, result⟩] ∧
      result.storyText = spec.changes.storyText.value := by
  by_cases fresh : story.turns.find? (·.idempotencyKey = spec.idempotencyKey) = none
  · exact .inr ⟨find_key_eq_none.mp fresh, commitTurn_eq_ok fresh committed, commitTurn_adds fresh committed⟩
  · obtain ⟨turn, found⟩ := Option.ne_none_iff_exists'.mp fresh
    unfold commitTurn at committed
    rw [found] at committed
    split at committed
    · cases committed
    · dsimp only at committed
      split at committed
      · cases committed
        exact .inl rfl
      · cases committed

/-! ### All calls -/

theorem OnceEach.add (once : OnceEach start story)
    (new : ∀ turn ∈ story.turns, turn.idempotencyKey ≠ spec.idempotencyKey)
    (commits : Commits uuids spec story next)
    (turns : next.turns = story.turns ++
      [⟨spec.turnNumber, spec.idempotencyKey, spec.requestDigest, result⟩])
    (text : result.storyText = spec.changes.storyText.value) : OnceEach start next := by
  have count : next.turns.length = story.turns.length + 1 := by
    rw [turns, List.length_append, List.length_singleton]
  have number : spec.turnNumber.get.toNat = story.turns.length + 1 := by
    rw [commits.numbered, once.last]
  obtain ⟨sequence, following', inserted⟩ := commits.segments
  have position := nextSequenceOf_eq_ok once.segments (Nat.succ_pos _) following'
  have earlier : ∀ other, other ≠ story.turns.length + 2 → next.segments[other]? = story.segments[other]? := by
    intro other apart
    rw [inserted, OrdMap.get_insert, if_neg]
    intro same
    exact apart (same.symm.trans position)
  exact {
    identity := commits.identity.trans once.identity
    numbers := by
      rw [turns, List.map_append, once.numbers, List.length_append, List.length_singleton,
        List.range'_concat, List.map_singleton, number, Nat.one_mul, Nat.add_comm]
    last := by
      rw [commits.lastTurn, count, ← number]
      rfl
    keys := by
      rw [turns, List.map_append, List.map_singleton]
      refine List.nodup_append'.mpr ⟨once.keys, List.nodup_singleton _, ?_⟩
      intro key before again
      obtain ⟨turn, member, rfl⟩ := List.mem_map.mp before
      exact new turn member (List.mem_singleton.mp again)
    revision := by
      rw [commits.revision_toInt, once.revision, count, Int.natCast_add, Int.add_assoc]
      rfl
    segments := fun other => by
      rw [inserted, Std.ExtTreeMap.mem_insert, compare_eq_iff_eq, once.segments, position, count]
      omega
    opening := by
      obtain ⟨opening, first⟩ := once.opening
      exact ⟨opening, (earlier 1 (by omega)).trans first⟩
    placed := by
      rw [turns]
      refine List.forall_mem_append.mpr ⟨fun turn member => ?_, List.forall_mem_singleton.mpr ?_⟩
      · have among := List.mem_map_of_mem (f := (·.turnNumber.get.toNat)) member
        rw [once.numbers, List.mem_range'_1] at among
        rw [earlier _ (by omega)]
        exact once.placed turn member
      · dsimp only
        rw [inserted, number, ← position, Std.ExtTreeMap.getElem?_insert_self, text] }

theorem OnceEach.afterCommit (once : OnceEach start story) (spec : TurnCommitSpec) :
    OnceEach start (afterCommit around story spec) := by
  unfold Persistence.afterCommit
  split
  · rename_i committed
    rcases commitTurn_cases committed with rfl | ⟨new, commits, turns, text⟩
    · exact once
    · exact once.add new commits turns text
  · exact once

theorem OnceEach.afterCommits (once : OnceEach start story) (specs : List TurnCommitSpec) :
    OnceEach start (afterCommits around story specs) := by
  induction specs generalizing story with
  | nil => exact once
  | cons spec rest ih => exact ih (once.afterCommit spec)

theorem Foundation.onceEach {foundation : Foundation} (created : foundation.create around = .ok start) :
    OnceEach start start := by
  obtain ⟨_, _, starts⟩ := Foundation.create_eq_ok created
  unfold Foundation.create createStory at created
  obtain ⟨spec, _, created⟩ := Result.bind_eq_ok created
  have segments := (createStoryInstance_columns (Result.mapError_eq_ok.mp created)).1
  have turns := starts.turns
  exact {
    identity := rfl
    numbers := by
      rw [turns]
      rfl
    last := by
      rw [starts.lastTurn, turns]
      rfl
    keys := by
      rw [turns]
      exact .nil
    revision := by
      rw [turns, List.length_nil, Int.ofNat_zero, Int.add_zero]
    segments := fun sequence => by
      rw [segments, turns, Std.ExtTreeMap.mem_insert, compare_eq_iff_eq, List.length_nil]
      simp only [Std.ExtTreeMap.not_mem_empty, or_false]
      omega
    opening := ⟨_, by rw [segments, Std.ExtTreeMap.getElem?_insert_self]⟩
    placed := fun turn member => by
      rw [turns] at member
      cases member }

/-! ### Answers -/

/-- The turn that has the key of the call is the one that is found. -/
theorem OnceEach.find (once : OnceEach start story) {turn : StoredTurn} (member : turn ∈ story.turns)
    (same : turn.idempotencyKey = spec.idempotencyKey) :
    story.turns.find? (·.idempotencyKey = spec.idempotencyKey) = some turn := by
  cases found : story.turns.find? (·.idempotencyKey = spec.idempotencyKey) with
  | none => exact absurd same (find_key_eq_none.mp found turn member)
  | some other =>
    have key := List.find?_some found
    rw [decide_eq_true_eq] at key
    have among := List.mem_of_find?_eq_some found
    exact congrArg some (List.inj_on_of_nodup_map once.keys among member (key.trans same.symm))

theorem checkTurnNumber_stale (stale : spec.turnNumber.get.toNat ≠ story.lastTurnNumber.get.toNat + 1) :
    checkTurnNumber spec story = .error .revisionConflict := by
  have fits := story.lastTurnNumber.fits
  have room : story.lastTurnNumber.get.toNat + 1 < UInt64.size := by
    have size : UInt64.size = 2 ^ 64 := rfl
    omega
  have expected : following "turn_number" story.lastTurnNumber.get =
      .ok (story.lastTurnNumber.get + 1) := if_pos room
  unfold checkTurnNumber
  rw [expected]
  refine if_pos fun same => stale ?_
  rw [← same, following_toNat expected]

theorem planCommit_stale (stale : (spec.baseRevision.toNat : Int) ≠ story.revision.toInt ∨
      spec.turnNumber.get.toNat ≠ story.lastTurnNumber.get.toNat + 1) :
    planCommit uuids spec story = .error .revisionConflict := by
  unfold planCommit
  dsimp only
  split
  · rfl
  · rename_i based
    rw [not_or, not_not, Int64.not_lt] at based
    obtain ⟨nonnegative, base⟩ := based
    have same : (spec.baseRevision.toNat : Int) = story.revision.toInt := by
      rw [← base, Int64.toNat_toUInt64_of_le nonnegative, Int64.cast_toNatClampNeg _ nonnegative]
    have failed := checkTurnNumber_stale (stale.resolve_left (not_not.mpr same))
    rw [Result.attach_eq_error.mpr failed]
    rfl

theorem commitTurn_stale (owned : spec.storyId = story.storyId)
    (new : ∀ turn ∈ story.turns, turn.idempotencyKey ≠ spec.idempotencyKey)
    (stale : (spec.baseRevision.toNat : Int) ≠ story.revision.toInt ∨
      spec.turnNumber.get.toNat ≠ story.lastTurnNumber.get.toNat + 1) :
    commitTurn uuids spec story = .error .revisionConflict := by
  unfold commitTurn
  rw [if_neg (not_not.mpr owned), find_key_eq_none.mpr new]
  simp only [planCommit_stale stale, bind, Except.bind]

theorem OnceEach.answers (once : OnceEach start story) (owned : spec.storyId = start.storyId) :
    Answers around story spec := by
  have same : spec.storyId = story.storyId := owned.trans once.identity.symm
  constructor
  · intro turn member key
    have answer : commitTurn around.uuids spec story =
        if turn.requestDigest = spec.requestDigest then .ok (turn.result, story)
        else .error .idempotencyConflict := by
      unfold commitTurn
      rw [if_neg (not_not.mpr same), once.find member key]
    refine ⟨answer, ?_⟩
    unfold Persistence.afterCommit
    rw [answer]
    split
    · rename_i ok
      split at ok
      · cases ok
        rfl
      · cases ok
    · rfl
  · intro new stale
    rw [← once.last] at stale
    exact commitTurn_stale same new stale
  · intro new result next committed
    exact (commitTurn_adds (find_key_eq_none.mpr new) committed).1
  · intro error failed
    unfold Persistence.afterCommit
    rw [failed]

/-- Whatever calls of `commit_turn` a created story has had, its turns are numbered from one without
a gap and have keys of their own, and its revision and its segments have gone along; and so is every
further call answered. -/
theorem commit_turn_exactly_once {foundation : Foundation}
    (created : foundation.create around = .ok start) (specs : List TurnCommitSpec) :
    OnceEach start (afterCommits around start specs) ∧
      ∀ spec : TurnCommitSpec, spec.storyId = start.storyId →
        Answers around (afterCommits around start specs) spec := by
  have once : OnceEach start (afterCommits around start specs) :=
    (Foundation.onceEach created).afterCommits specs
  exact ⟨once, fun _ owned => once.answers owned⟩

end

namespace ExactlyOnce.Sample
open Run.Sample

/-- The first turn of a story is committed, and then its commit is called again. -/
theorem turn_committed_once : ∃ (start next : StoredStory) (turn : StoryTurn around start next),
    afterCommits around start [turn.spec] = next ∧ OnceEach start next ∧
      Answers around next turn.spec := by
  obtain ⟨start, next, created, turn, -, -⟩ :=
    played_eq (foundation FactValues.Sample.quiet FactValues.Sample.quiet_storable ∅) {} {}
      (fun _ => true) (by decide +kernel)
  have committed : afterCommits around start [turn.spec] = next := by
    simp only [afterCommits, List.foldl_cons, List.foldl_nil, afterCommit, turn.committed]
  obtain ⟨once, answers⟩ := commit_turn_exactly_once created [turn.spec]
  rw [committed] at once answers
  have owned : turn.spec.storyId = start.storyId := by
    by_contra other
    have failed : commitTurn around.uuids turn.spec start = .error .notFound := if_pos other
    cases failed.symm.trans turn.committed
  exact ⟨start, next, turn, committed, once, answers turn.spec owned⟩

end ExactlyOnce.Sample

end Aise.Domain.Persistence
