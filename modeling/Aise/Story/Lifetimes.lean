import Aise.Story.FactValues

/-! How long the constraints of a pack are active in the turns of a story. A turn leaves those that
are due after it, but of what a story is created with the store reads nothing back. -/
namespace Aise.Domain

/-- A sequence that the lifecycle names is a positive one. -/
def StoryConstraintLifecycle.Counted (lifecycle : StoryConstraintLifecycle) : Prop :=
  ∀ last, lifecycle = .throughSequence last → last.get ≠ 0

/-- What a constraint means for the turn that will produce the sequence on the state. -/
def StoryConstraintLifecycle.Due (state : NarrativeRuntimeState) (sequence : Nat) :
    StoryConstraintLifecycle → Prop
  | .persistent => True
  | .throughSequence last => sequence ≤ last.get.toNat
  | .untilNarrativeNodeResolved nodeKey =>
    state.nodeState nodeKey ≠ .completed ∧ state.nodeState nodeKey ≠ .skipped

/-- What outlives a sequence is what is due for the next. -/
theorem StoryConstraintLifecycle.outlives_iff_due {state : NarrativeRuntimeState}
    {sequence : StorySequence} (lifecycle : StoryConstraintLifecycle) :
    lifecycle.outlives sequence state.nodeStates = true ↔
      lifecycle.Due state (sequence.get.toNat + 1) := by
  have resolved : ∀ (key : AssetKey) (node : NarrativeNodeState), node ≠ .inactive →
      (state.nodeState key = node ↔ state.nodeStates[key]? = some node) := by
    intro key node other
    rw [NarrativeRuntimeState.nodeState]
    cases state.nodeStates[key]? with
    | none => simp [Ne.symm other]
    | some found => simp
  cases lifecycle with
  | persistent => simp only [Due, outlives]
  | throughSequence last =>
    rw [Due, outlives, decide_eq_true_eq, gt_iff_lt, UInt64.lt_iff_toNat_lt]
    exact Nat.lt_iff_add_one_le
  | untilNarrativeNodeResolved key =>
    rw [Due, outlives, decide_eq_true_eq]
    exact (and_congr (resolved key .completed (by decide)).not
      (resolved key .skipped (by decide)).not).symm

end Aise.Domain

namespace Aise.Domain.Persistence

/-! ### Nodes -/

section
variable {number : TurnNumber} {state after : NarrativeRuntimeState}
  {transitions : List ProposedNarrativeTransition}

theorem applyTransitions_nodes (ok : transitions.foldlM (applyTransition number) state = .ok after) :
    after.nodeStates = finalNodes state transitions := by
  induction transitions generalizing state with
  | nil =>
    cases ok
    rfl
  | cons transition rest ih =>
    obtain ⟨between, first, ok⟩ := Result.bind_eq_ok ok
    rw [ih ok]
    unfold applyTransition at first
    split at first
    · cases first
    · cases first
      rfl

theorem commitNarrative_nodes {spec : TurnCommitSpec} (ok : commitNarrative spec state = .ok after) :
    after.nodeStates = finalNodes state spec.changes.narrativeResolution.transitions := by
  unfold commitNarrative at ok
  dsimp only at ok
  split at ok
  · cases ok
  · obtain ⟨moved, applied, ok⟩ := Result.bind_eq_ok ok
    cases ok
    have nodes := applyTransitions_nodes applied
    exact nodes

end

/-! ### Constraints of a story -/

/-- The constraints of the pack, as they become those of the story. -/
def Foundation.activeConstraints (foundation : Foundation) :
    Except StoryCreationError (List ActiveStoryConstraint) :=
  foundation.stored.pack.constraints.toList.mapM
    (materializeConstraint foundation.stored foundation.sources.storyId)

section
variable {around : Surroundings} {foundation : Foundation} {start story next : StoredStory}
  {seeds : List ActiveStoryConstraint}

/-- A turn leaves what is due for the next one of the constraints that it was shown, and does not
write where these are all. -/
structure StoryTurn.Constrains (turn : StoryTurn around story next) (committed : StorySequence)
    (after : NarrativeRuntimeState) (left : List ActiveStoryConstraint) : Prop where
  produced : turn.snapshot.storyContinuity.nextSequence = .ok committed
  narrated : commitNarrative turn.spec turn.snapshot.narrativeState = .ok after ∧
    next.narrativeStateJson = narrativeRuntimeStateCodec.encode after
  stored : next.activeConstraintsJson =
    if left = turn.snapshot.activeConstraints then story.activeConstraintsJson
    else activeConstraintsToJson left
  due : ∀ constraint, constraint ∈ left ↔ constraint ∈ turn.snapshot.activeConstraints ∧
    constraint.lifecycle.Due after (committed.get.toNat + 1)

theorem StoryTurn.constrains (turn : StoryTurn around story next) :
    ∃ committed after left, turn.Constrains committed after left := by
  obtain ⟨parts, state, resolution, from', snapshot, _⟩ := turn.builtFrom
  obtain ⟨committed, produced, changed⟩ := from'.constrained
  obtain ⟨before, after, read, narrated, written⟩ := turn.commits.narrative
  cases turn.shows.narrative.symm.trans read
  have nodes := commitNarrative_nodes narrated
  rw [turn.committing, from'.transitions] at nodes
  rw [snapshot, ← nodes] at changed
  rw [snapshot] at produced
  refine ⟨committed, after,
    turn.snapshot.activeConstraints.filter (·.lifecycle.outlives committed after.nodeStates),
    produced, ⟨narrated, written⟩, ?_, fun constraint => ?_⟩
  · have column := turn.commits.constrained
    rw [turn.committing, commitConstraints, changed, constraintChangeOf] at column
    by_cases all : turn.snapshot.activeConstraints.filter
        (·.lifecycle.outlives committed after.nodeStates) = turn.snapshot.activeConstraints
    · rw [if_pos all] at column
      rw [column, if_pos all]
    · rw [if_neg all] at column
      rw [column, if_neg all]
  · rw [List.mem_filter, StoryConstraintLifecycle.outlives_iff_due]

/-- A story starts with all constraints of its pack. -/
theorem Foundation.constrained (created : foundation.create around = .ok start)
    (made : foundation.activeConstraints = .ok seeds) :
    start.activeConstraintsJson = activeConstraintsToJson seeds := by
  unfold Foundation.create createStory at created
  obtain ⟨spec, materialized, created⟩ := Result.bind_eq_ok created
  obtain ⟨-, -, active⟩ := createStoryInstance_columns (Result.mapError_eq_ok.mp created)
  unfold materialize at materialized
  obtain ⟨_, _, materialized⟩ := Result.bind_eq_ok materialized
  obtain ⟨_, _, materialized⟩ := Result.bind_eq_ok materialized
  obtain ⟨_, _, materialized⟩ := Result.bind_eq_ok materialized
  obtain ⟨_, _, materialized⟩ := Result.bind_eq_ok materialized
  obtain ⟨_, _, materialized⟩ := Result.bind_eq_ok materialized
  obtain ⟨seeded, seededOk, materialized⟩ := Result.bind_eq_ok materialized
  obtain ⟨_, _, materialized⟩ := Result.bind_eq_ok materialized
  obtain ⟨_, _, materialized⟩ := Result.bind_eq_ok materialized
  cases materialized
  cases seededOk.symm.trans made
  exact active

/-- No snapshot of a story that starts with constraints is loaded. -/
theorem Foundation.unreadable (created : foundation.create around = .ok start)
    (made : foundation.activeConstraints = .ok seeds) (some : seeds ≠ []) :
    activeConstraintsOfJson start.activeConstraintsJson = none ∧
      ∀ limits storyId snapshot,
        loadStorySnapshot limits around.uuids storyId start ≠ .ok snapshot := by
  have read : activeConstraintsOfJson start.activeConstraintsJson = none := by
    rw [Foundation.constrained created made, activeConstraintsOfJson_toJson, if_neg some]
  refine ⟨read, fun limits storyId snapshot loaded => ?_⟩
  cases read.symm.trans (loadStorySnapshot_shows loaded).constrained

namespace History
variable (history : History around start)

/-- Every state has a list of constraints that can be read, a constraint of the pack is active in
its snapshots just while it is due, and none becomes active again. -/
structure KeepsConstraints (seeds : List ActiveStoryConstraint) : Prop where
  read : ∀ n ≤ history.length, ∃ active,
    activeConstraintsOfJson (history.story n).activeConstraintsJson = some active
  due : ∀ n ≤ history.length, ∀ (limits : SnapshotLimits) (storyId : StoryId)
    (snapshot : StorySnapshot) (sequence : StorySequence),
    loadStorySnapshot limits around.uuids storyId (history.story n) = .ok snapshot →
      snapshot.storyContinuity.nextSequence = .ok sequence →
        ∀ constraint ∈ seeds, constraint.lifecycle.Counted →
          (constraint ∈ snapshot.activeConstraints ↔
            constraint.lifecycle.Due snapshot.narrativeState sequence.get.toNat)
  dropped : ∀ n ≤ history.length, ∀ m ≤ n, ∀ active later : List ActiveStoryConstraint,
    activeConstraintsOfJson (history.story m).activeConstraintsJson = some active →
      activeConstraintsOfJson (history.story n).activeConstraintsJson = some later → later ⊆ active

variable {history}

/-- A story without constraints gets none. -/
theorem unconstrained (created : foundation.create around = .ok start)
    (made : foundation.activeConstraints = .ok []) (n : Nat) (inside : n ≤ history.length) :
    activeConstraintsOfJson (history.story n).activeConstraintsJson = some [] := by
  induction n with
  | zero =>
    rw [history.begins, Foundation.constrained created made]
    rfl
  | succ n ih =>
    have before := ih (Nat.le_of_succ_le inside)
    have turn := history.turn n inside
    obtain ⟨committed, after, left, constrains⟩ := turn.constrains
    have none : turn.snapshot.activeConstraints = [] :=
      Option.some.inj (turn.shows.constrained.symm.trans before)
    have same : left = [] := by
      refine List.eq_nil_iff_forall_not_mem.mpr fun constraint member => ?_
      have among := ((constrains.due constraint).mp member).1
      rw [none] at among
      cases among
    rw [constrains.stored, if_pos (same.trans none.symm)]
    exact before

end History

/-- The constraints of a pack are active as their lifecycles say in a run of a story just when there
are none: with any, the story has no snapshot and no turn. Whatever constraints a turn is shown, it
leaves those that are due for the next one. -/
theorem constraint_lifetimes_iff (created : foundation.create around = .ok start)
    (made : foundation.activeConstraints = .ok seeds) (history : History around start) :
    (history.KeepsConstraints seeds ↔ seeds = []) ∧
    (seeds ≠ [] → history.length = 0 ∧ ∀ limits storyId snapshot,
      loadStorySnapshot limits around.uuids storyId start ≠ .ok snapshot) ∧
    ∀ (story next : StoredStory) (turn : StoryTurn around story next),
      ∃ committed after left, turn.Constrains committed after left := by
  refine ⟨⟨fun keeps => ?_, ?_⟩, fun some => ?_, fun _ _ turn => turn.constrains⟩
  · by_contra some
    obtain ⟨active, read⟩ := keeps.read 0 (Nat.zero_le _)
    rw [history.begins, (Foundation.unreadable created made some).1] at read
    cases read
  · rintro rfl
    have none (n : Nat) (inside : n ≤ history.length) :
        activeConstraintsOfJson (history.story n).activeConstraintsJson = some [] :=
      History.unconstrained created made n inside
    refine ⟨fun n inside => ⟨[], none n inside⟩, ?_, ?_⟩
    · intro _ _ _ _ _ _ _ _ constraint member
      cases member
    · intro n inside m before active later _ read
      cases read.symm.trans (none n inside)
      exact List.nil_subset active
  · have unreadable := (Foundation.unreadable created made some).2
    have stuck : ∀ story next, story = start → StoryTurn around story next → False := by
      rintro _ next rfl turn
      exact unreadable _ _ _ turn.loaded
    refine ⟨Nat.eq_zero_of_not_pos fun positive => ?_, unreadable⟩
    exact stuck _ _ history.begins (history.turn 0 positive)

end

namespace Lifetimes.Sample
open Run.Sample FactValues.Sample

def curfew : ActiveStoryConstraint where
  id := "story-mill:seed:constraint:curfew"
  source := ⟨⟨"pack-mill"⟩, ⟨"curfew"⟩⟩
  scope := .story
  requirement := .forbid ⟨"Nobody walks at night."⟩
  lifecycle := .persistent

/-- The mill with a curfew. -/
def mill : Foundation :=
  let plain := foundation quiet quiet_storable ∅
  { plain with stored := {
      row := plain.stored.row
      pack := { plain.stored.pack with
        constraints := (∅ : BTreeMap AssetKey StoryConstraintDefinition).insert ⟨"curfew"⟩
          ⟨.story, .forbid ⟨"Nobody walks at night."⟩, .persistent⟩ }
      resolvedWorldBook := plain.stored.resolvedWorldBook
      narrated := rfl } }

def untold (start : StoredStory) : History around start where
  length := 0
  story _ := start
  begins := rfl
  turn n inside := absurd inside (Nat.not_lt_zero n)

theorem mill_created : ∃ start, mill.create around = .ok start ∧
    mill.activeConstraints = .ok [curfew] := by
  have creates : (mill.create around).toOption.isSome = true := by decide +kernel
  have made : mill.activeConstraints.toOption = some [curfew] := by decide +kernel
  obtain ⟨start, created⟩ := Option.isSome_iff_exists.mp creates
  exact ⟨start, Result.toOption_eq_some created, Result.toOption_eq_some made⟩

/-- Without a curfew, a story has its turns, and with one it has none. -/
theorem quiet_mill_kept : (∃ (start : StoredStory) (history : History around start),
      (foundation quiet quiet_storable ∅).create around = .ok start ∧ history.length = 1 ∧
        history.KeepsConstraints []) ∧
    ∃ start, mill.create around = .ok start ∧
      ∀ history : History around start, history.length = 0 ∧ ¬history.KeepsConstraints [curfew] := by
  constructor
  · obtain ⟨start, next, created, turn, -, -⟩ :=
      played_eq (foundation quiet quiet_storable ∅) {} {} (fun _ => true) (by decide +kernel)
    have made : (foundation quiet quiet_storable ∅).activeConstraints.toOption = some [] := by
      decide +kernel
    refine ⟨start, .single turn, created, rfl, ?_⟩
    exact (constraint_lifetimes_iff created (Result.toOption_eq_some made) _).1.mpr rfl
  · obtain ⟨start, created, made⟩ := mill_created
    refine ⟨start, created, fun history => ?_⟩
    obtain ⟨lifetimes, none, -⟩ := constraint_lifetimes_iff created made history
    have some : [curfew] ≠ [] := List.cons_ne_nil _ _
    exact ⟨(none some).1, fun keeps => some (lifetimes.mp keeps)⟩

/-- A story with a curfew has no list of constraints that can be read. -/
theorem curfew_lost :
    ¬∀ (around : Surroundings) (foundation : Foundation) (start : StoredStory)
      (seeds : List ActiveStoryConstraint) (history : History around start),
      foundation.create around = .ok start → foundation.activeConstraints = .ok seeds →
        history.KeepsConstraints seeds := by
  intro kept
  obtain ⟨start, created, made⟩ := mill_created
  have keeps := kept around mill start [curfew] (untold start) created made
  obtain ⟨active, read⟩ := keeps.read 0 (Nat.le_refl 0)
  cases (Foundation.unreadable created made (List.cons_ne_nil _ _)).1.symm.trans read

end Lifetimes.Sample

end Aise.Domain.Persistence
