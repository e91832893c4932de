import Aise.Story.Creation
import Aise.Validation.Validators

/-! The runs of a story: it is created, and then turn after turn is built on its snapshot and
committed. -/
namespace Aise.Domain

/-- What the projector is given of a snapshot. -/
def StorySnapshot.projectionInput (snapshot : StorySnapshot) (currentTurn : UInt64) :
    NarrativeProjectionInput where
  definition := snapshot.narrativeDefinition
  state := snapshot.narrativeState
  committedView := snapshot.committedView
  currentTurn

end Aise.Domain

namespace Aise.Domain.Persistence

/-- The code around the stories, of which they are independent. -/
structure Surroundings where
  uuids : UuidReader
  externals : Externals
  engine : RegexEngine

/-- What a story is created with. -/
structure Foundation where
  limits : StoryInstantiationLimits
  narrativeLimits : NarrativeLimits
  sources : CreationSources
  stored : StoredStoryPack
  spec : CreateStoryInstanceSpec

section
variable (around : Surroundings)

def Foundation.create (foundation : Foundation) : Except StoryCreationError StoredStory :=
  createStory around.uuids around.externals around.engine foundation.limits
    foundation.narrativeLimits foundation.sources foundation.stored foundation.spec

/-- A turn of a story, from its snapshot to its commit. Whatever the turn has read or extracted, the
change set is built on the projection of the snapshot, and is committed to the revision of it. -/
structure StoryTurn (story next : StoredStory) where
  snapshotLimits : SnapshotLimits
  snapshot : StorySnapshot
  projectionLimits : NarrativeProjectionLimits
  projectedTurn : UInt64
  projection : NarrativeProjection
  turn : CandidateTurn
  changes : ValidatedChangeSet
  spec : TurnCommitSpec
  result : CommittedTurnResult
  loaded : loadStorySnapshot snapshotLimits around.uuids story.storyId story =
    .ok snapshot
  projected : (snapshot.projectionInput projectedTurn).project projectionLimits = .ok projection
  held : turn.snapshot = some snapshot
  planned : turn.narrativeProjection = some projection
  owned : turn.storyId = story.storyId
  built : buildChangeSet around.externals around.engine turn = .ok changes
  committing : spec.changes = changes
  based : spec.baseRevision = snapshot.baseRevision
  expected : spec.expectedGraphRevision = snapshot.narrativeState.graphRevision
  numbered : spec.turnNumber = turn.turnNumber
  fresh : story.turns.find? (·.idempotencyKey = spec.idempotencyKey) = none
  committed : commitTurn around.uuids spec story = .ok (result, next)

/-- Turns one after the other, with the change sets that were committed. -/
inductive Runs (start : StoredStory) : List ValidatedChangeSet → StoredStory → Prop
  | created : Runs start [] start
  | turned {before : List ValidatedChangeSet} {story next : StoredStory}
      (run : Runs start before story) (turn : StoryTurn around story next) :
      Runs start (before ++ [turn.changes]) next

end

/-! ### How a story starts -/

theorem Foundation.create_eq_ok {around : Surroundings} {foundation : Foundation}
    {start : StoredStory} (created : foundation.create around = .ok start) : ∃ spec,
      MaterializedFrom around.uuids around.externals around.engine foundation.limits
        foundation.narrativeLimits foundation.stored foundation.spec spec ∧
      StartsAs around.uuids foundation.stored.row spec start := by
  unfold Foundation.create createStory at created
  obtain ⟨spec, materialized, created⟩ := Result.bind_eq_ok created
  exact ⟨spec, materialize_eq_ok materialized,
    createStoryInstance_eq_ok (Result.mapError_eq_ok.mp created)⟩

/-! ### What every turn does -/

section
variable {around : Surroundings} {story next : StoredStory} (turn : StoryTurn around story next)
include turn

theorem StoryTurn.shows : Shows around.uuids story turn.snapshot :=
  loadStorySnapshot_shows turn.loaded

theorem StoryTurn.commits :
    Commits around.uuids turn.spec story next :=
  commitTurn_eq_ok turn.fresh turn.committed

/-- The change set is built on the snapshot and the projection of the turn. -/
theorem StoryTurn.builtFrom : ∃ parts state resolution,
    BuiltFrom around.externals around.engine turn.turn turn.changes parts state resolution ∧
      parts.snapshot = turn.snapshot ∧ parts.projection = turn.projection := by
  obtain ⟨parts, state, resolution, from'⟩ := buildChangeSet_eq_ok turn.built
  refine ⟨parts, state, resolution, from', ?_⟩
  obtain ⟨_, _, held, planned⟩ := CandidateTurn.parts_eq_ok from'.parted
  have sameSnapshot := held.symm.trans turn.held
  have sameProjection := planned.symm.trans turn.planned
  exact ⟨Option.some.inj sameSnapshot, Option.some.inj sameProjection⟩

end

/-- What holds of a story that was created, and is kept by every turn. -/
theorem Runs.invariant {around : Surroundings} {start story : StoredStory}
    {changes : List ValidatedChangeSet} {P : List ValidatedChangeSet → StoredStory → Prop}
    (run : Runs around start changes story) (initial : P [] start)
    (keeps : ∀ {before story next} (turn : StoryTurn around story next),
      P before story → P (before ++ [turn.changes]) next) : P changes story := by
  induction run with
  | created => exact initial
  | turned _ turn ih => exact keeps turn ih

/-- A story with all of its turns. -/
structure History (around : Surroundings) (start : StoredStory) where
  length : Nat
  story : Nat → StoredStory
  begins : story 0 = start
  turn : (n : Nat) → n < length → StoryTurn around (story n) (story (n + 1))

namespace History
variable {around : Surroundings} {start : StoredStory} (history : History around start)

def changes : (n : Nat) → n ≤ history.length → List ValidatedChangeSet
  | 0, _ => []
  | n + 1, inside => changes n (Nat.le_of_succ_le inside) ++ [(history.turn n inside).changes]

theorem runs (n : Nat) (inside : n ≤ history.length) :
    Runs around start (history.changes n inside) (history.story n) := by
  induction n with
  | zero =>
    rw [history.begins]
    exact .created
  | succ n ih => exact .turned (ih (Nat.le_of_succ_le inside)) (history.turn n inside)

/-- A story with one turn. -/
def single {next : StoredStory} (turn : StoryTurn around start next) : History around start where
  length := 1
  story
    | 0 => start
    | _ => next
  begins := rfl
  turn
    | 0, _ => turn
    | n + 1, inside => absurd inside (Nat.not_lt.mpr (Nat.le_add_left 1 n))

end History

/-- A story stays with its pack. -/
theorem Runs.pack_eq {around : Surroundings} {start story : StoredStory}
    {changes : List ValidatedChangeSet} (run : Runs around start changes story) :
    story.pack = start.pack :=
  run.invariant (P := fun _ story => story.pack = start.pack) rfl
    fun turn same => turn.commits.pack.trans same

/-! A story at a mill, with one role. -/
namespace Run.Sample

def around : Surroundings where
  uuids := { read := fun _ => none, hyphenated := nofun }
  externals := Reserve.Sample.externals
  engine := { build := fun _ _ _ _ _ => .error .other }

def miller : RoleId := ⟨"miller", by decide⟩

def role : StoryRoleDefinition where
  roleLabel := ⟨"Miller"⟩
  narrativeFunction := ⟨"lead"⟩
  defaultProfile := { name := ⟨"Ada"⟩ }
  initialState := { location := ⟨"mill"⟩, goals := [] }

def pack (narrative : NarrativeGraphDefinition) : StoryPack where
  title := ⟨"The mill"⟩
  roles := (∅ : BTreeMap RoleId StoryRoleDefinition).insert miller role
  playableRoleIds := [miller]
  worldBook := .frozen
  opening := ⟨"It rains."⟩
  narrative

def row (narrative : NarrativeGraphDefinition) (storable : narrative.Storable) : StoredPack where
  packId := ⟨"pack-mill"⟩
  digest := ⟨List.replicate 32 4, by decide⟩
  storyTitle := some "The mill"
  profileLength := 100
  narrativeLength := 100
  narrativeDefinition := narrative
  storable

def foundation (narrative : NarrativeGraphDefinition) (storable : narrative.Storable)
    (facts : BTreeMap AssetKey FactSeed) : Foundation where
  limits := ⟨8, 2048, 8, 8, 8, 8, 64, ⟨4, 4, 64, 1024, 2, 32, 4⟩⟩
  narrativeLimits := ⟨4, 4, 4, 4⟩
  sources := ⟨⟨"story-mill", by decide⟩, fun _ => .error .notFound⟩
  stored := {
    row := row narrative storable
    pack := pack narrative
    resolvedWorldBook := ⟨facts, ∅⟩
    narrated := rfl }
  spec := { playerId := "player", playerRoleId := miller, createdAtMs := 0 }

def limits : SnapshotLimits where
  maxStoryProfileBytes := 4096
  maxInstanceSettings := 4
  maxInstanceSettingBytes := 256
  maxRoles := 4
  maxRoleBytes := 2048
  maxRelationships := 4
  maxNarrativeNodes := 4
  maxConditionFactValues := 4
  maxConstraints := 4
  maxConstraintBytes := 256
  continuity := ⟨1024, 4, 256, 256⟩

/-- The story as it is created, and its first snapshot. -/
def opening (foundation : Foundation) : Option (StoredStory × StorySnapshot) := do
  let start ← (foundation.create around).toOption
  let snapshot ← (loadStorySnapshot limits around.uuids start.storyId
    start).toOption
  return (start, snapshot)

theorem opening_eq_some {foundation : Foundation} {start : StoredStory} {snapshot : StorySnapshot}
    (opens : opening foundation = some (start, snapshot)) :
    foundation.create around = .ok start ∧
      loadStorySnapshot limits around.uuids start.storyId start = .ok snapshot := by
  obtain ⟨first, created, opens⟩ := Option.bind_eq_some_iff.mp opens
  obtain ⟨shown, loaded, opens⟩ := Option.bind_eq_some_iff.mp opens
  cases opens
  exact ⟨Result.toOption_eq_some created, Result.toOption_eq_some loaded⟩

theorem opening_eq (foundation : Foundation) (check : StoredStory × StorySnapshot → Bool)
    (holds : (opening foundation).any check = true) :
    ∃ start snapshot, foundation.create around = .ok start ∧
      loadStorySnapshot limits around.uuids start.storyId start = .ok snapshot ∧
      check (start, snapshot) = true := by
  rw [Option.any_eq_true] at holds
  obtain ⟨⟨start, snapshot⟩, opens, checked⟩ := holds
  obtain ⟨created, loaded⟩ := opening_eq_some opens
  exact ⟨start, snapshot, created, loaded, checked⟩

/-! The first turn of the story, with what the model extracted of it. -/

def validation : TurnValidationLimits where
  maxStoryTextBytes := 1024
  maxItemBytes := 64
  maxKnowledgeChangeBytes := 256
  maxOutputTokens := 1000
  stateExtraction := ⟨4, 4, 4, 4, 4, 4, 64, 64, 256, 4, 4, 64, 64, 4, 32⟩
  activationRules := ⟨4, 4, 64, 1024, 2, 32, 4⟩
  narrative := ⟨4, 4, 4, 4⟩

def projecting : NarrativeProjectionLimits where
  toNarrativeLimits := ⟨4, 4, 4, 4⟩
  maxFrontierNodes := 4
  maxSemanticConditions := 4
  maxSemanticQueriesPerTurn := 4
  maxSemanticQueryBytes := 256

theorem first_turn_accepted : (1 : UInt64) ≠ 0 ∧ (1 : UInt64).toNat ≤ 2 ^ 63 - 1 := by decide

def candidate (extracted : StoryStateExtractionDto) (retrieved : RetrievedContext)
    (snapshot : StorySnapshot) (projection : NarrativeProjection) : CandidateTurn where
  storyId := snapshot.storyId
  turnNumber := ⟨1, first_turn_accepted⟩
  startedAtMs := 0
  limits := validation
  snapshot := some snapshot
  retrieved
  narrativeProjection := some projection
  story := some ⟨⟨"The wheel turns."⟩⟩
  extraction := some {
    expectedGraphRevision := snapshot.narrativeState.graphRevision
    candidateVersion := ⟨⟨List.replicate 32 6, by decide⟩, 0⟩
    state := extracted }

def committing (snapshot : StorySnapshot) (changes : ValidatedChangeSet) : TurnCommitSpec where
  storyId := snapshot.storyId
  baseRevision := snapshot.baseRevision
  expectedGraphRevision := snapshot.narrativeState.graphRevision
  turnNumber := ⟨1, first_turn_accepted⟩
  changes
  idempotencyKey := "wheel"
  requestDigest := "wheel"

structure Played where
  start : StoredStory
  turn : CandidateTurn
  changes : ValidatedChangeSet
  next : StoredStory

def played (foundation : Foundation) (extracted : StoryStateExtractionDto)
    (retrieved : RetrievedContext) : Option Played := do
  let (start, snapshot) ← opening foundation
  let projection ← ((snapshot.projectionInput 1).project projecting).toOption
  let turn := candidate extracted retrieved snapshot projection
  let changes ← (buildChangeSet around.externals around.engine turn).toOption
  let (_, next) ← (commitTurn around.uuids (committing snapshot changes)
    start).toOption
  return ⟨start, turn, changes, next⟩

/-- A turn of a new story that was computed, in whatever surroundings. -/
def firstTurn {around : Surroundings} {foundation : Foundation} {start next : StoredStory}
    {snapshot : StorySnapshot} {projection : NarrativeProjection} {changes : ValidatedChangeSet}
    {result : CommittedTurnResult} {extracted : StoryStateExtractionDto} {retrieved : RetrievedContext}
    (created : foundation.create around = .ok start)
    (loaded : loadStorySnapshot limits around.uuids start.storyId start = .ok snapshot)
    (projected : (snapshot.projectionInput 1).project projecting = .ok projection)
    (built : buildChangeSet around.externals around.engine
      (candidate extracted retrieved snapshot projection) = .ok changes)
    (committed : commitTurn around.uuids (committing snapshot changes) start = .ok (result, next)) :
    StoryTurn around start next where
  snapshotLimits := limits
  snapshot
  projectionLimits := projecting
  projectedTurn := 1
  projection
  turn := candidate extracted retrieved snapshot projection
  changes
  spec := committing snapshot changes
  result
  loaded
  projected
  held := rfl
  planned := rfl
  owned := (loadStorySnapshot_shows loaded).identity
  built
  committing := rfl
  based := rfl
  expected := rfl
  numbered := rfl
  fresh := by
    obtain ⟨spec, _, starts⟩ := Foundation.create_eq_ok created
    rw [starts.turns]
    rfl
  committed

theorem played_eq (foundation : Foundation) (extracted : StoryStateExtractionDto)
    (retrieved : RetrievedContext) (check : Played → Bool)
    (holds : (played foundation extracted retrieved).any check = true) :
    ∃ start next, foundation.create around = .ok start ∧ ∃ turn : StoryTurn around start next,
      turn.turn = candidate extracted retrieved turn.snapshot turn.projection ∧
      check ⟨start, turn.turn, turn.changes, next⟩ = true := by
  rw [Option.any_eq_true] at holds
  obtain ⟨_, plays, checked⟩ := holds
  obtain ⟨⟨start, snapshot⟩, opens, plays⟩ := Option.bind_eq_some_iff.mp plays
  obtain ⟨projection, projected, plays⟩ := Option.bind_eq_some_iff.mp plays
  obtain ⟨changes, built, plays⟩ := Option.bind_eq_some_iff.mp plays
  obtain ⟨⟨result, next⟩, committed, plays⟩ := Option.bind_eq_some_iff.mp plays
  cases plays
  obtain ⟨created, loaded⟩ := opening_eq_some opens
  exact ⟨start, next, created, firstTurn created loaded (Result.toOption_eq_some projected)
    (Result.toOption_eq_some built) (Result.toOption_eq_some committed), rfl, checked⟩

end Run.Sample

end Aise.Domain.Persistence
