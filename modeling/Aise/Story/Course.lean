import Aise.Story.Run

/-! The course of a story, with the turns of both producers of change sets: validation, which builds
them on the snapshot, and the runtime, which constructs some itself. -/
namespace Aise.Domain

/-- The content digest of a change set that no validation has seen. -/
def Sha256Digest.zeros : Sha256Digest := ⟨List.replicate 32 0, List.length_replicate⟩

/-- `construct_changeset`. -/
def CandidateTurn.constructChangeset (turn : CandidateTurn) :
    Except TurnExecutionError ValidatedChangeSet := do
  let story ← Result.okOr turn.story ⟨.invariantViolation, "missing_story_text", some .storyGenerator,
    "story text is required before constructing the change set"⟩
  ValidatedChangeSet.new {
    storyText := story.storyText
    newRoles := []
    roleChanges := []
    relationshipOperations := []
    knowledgeMutations := []
    knowledgeIdHighWater := 0
    nextRoleIdHighWater := 0
    narrativeEvents := []
    narrativeResolution := {
      candidateVersion := ⟨.zeros, 0⟩
      transitions := []
      conditionResults := ∅
      pendingEffects := []
      nextGraphRevision := 0 }
    constraintChange := .unchanged }

/-- A constructed change set changes nothing that is known or played, and takes the high waters
back. -/
structure ValidatedChangeSet.Reset (changes : ValidatedChangeSet) : Prop where
  mutations : changes.knowledgeMutations = []
  newRoles : changes.newRoles = []
  knowledgeHighWater : changes.knowledgeIdHighWater = 0
  roleHighWater : changes.nextRoleIdHighWater = 0

theorem CandidateTurn.constructChangeset_eq_ok {turn : CandidateTurn} {changes : ValidatedChangeSet}
    (built : turn.constructChangeset = .ok changes) : changes.Reset := by
  obtain ⟨story, _, built⟩ := Result.bind_eq_ok built
  unfold ValidatedChangeSet.new at built
  split at built
  · cases built
    exact ⟨rfl, rfl, rfl, rfl⟩
  · cases built

end Aise.Domain

namespace Aise.Domain.Persistence

/-! ### Turns of both producers -/

section
variable (around : Surroundings)

/-- A turn that the runtime commits with the change set that it has constructed itself. -/
structure ConstructedTurn (story next : StoredStory) where
  snapshotLimits : SnapshotLimits
  snapshot : StorySnapshot
  turn : CandidateTurn
  changes : ValidatedChangeSet
  spec : TurnCommitSpec
  result : CommittedTurnResult
  loaded : loadStorySnapshot snapshotLimits around.uuids story.storyId story =
    .ok snapshot
  held : turn.snapshot = some snapshot
  owned : turn.storyId = story.storyId
  built : turn.constructChangeset = .ok changes
  committing : spec.changes = changes
  based : spec.baseRevision = snapshot.baseRevision
  expected : spec.expectedGraphRevision = snapshot.narrativeState.graphRevision
  numbered : spec.turnNumber = turn.turnNumber
  fresh : story.turns.find? (·.idempotencyKey = spec.idempotencyKey) = none
  committed : commitTurn around.uuids spec story = .ok (result, next)

inductive CommittedTurn (story next : StoredStory) where
  | validated (turn : StoryTurn around story next) (valid : runDeterministic turn.turn = [])
  | constructed (turn : ConstructedTurn around story next)

structure Move where
  before : StoredStory
  after : StoredStory
  turn : CommittedTurn around before after

variable {around}

def CommittedTurn.changes {story next : StoredStory} : CommittedTurn around story next → ValidatedChangeSet
  | validated turn _ => turn.changes
  | constructed turn => turn.changes

/-- The change set is from `construct_changeset`. -/
def CommittedTurn.Constructs {story next : StoredStory} : CommittedTurn around story next → Prop
  | validated .. => False
  | constructed _ => True

/-- Turns of both kinds one after the other. -/
inductive Course (start : StoredStory) : List (Move around) → StoredStory → Prop
  | created : Course start [] start
  | turned {moves : List (Move around)} {story next : StoredStory} (course : Course start moves story)
      (turn : CommittedTurn around story next) : Course start (moves ++ [⟨story, next, turn⟩]) next

end

section
variable {around : Surroundings} {start story next : StoredStory}

theorem ConstructedTurn.commits (turn : ConstructedTurn around story next) :
    Commits around.uuids turn.spec story next :=
  commitTurn_eq_ok turn.fresh turn.committed

/-- The change set of a turn, and what its commit has done. -/
theorem CommittedTurn.commits (turn : CommittedTurn around story next) :
    ∃ spec : TurnCommitSpec, spec.changes = turn.changes ∧ Commits around.uuids spec story next := by
  cases turn with
  | validated turn valid => exact ⟨turn.spec, turn.committing, turn.commits⟩
  | constructed turn => exact ⟨turn.spec, turn.committing, turn.commits⟩

/-- What holds of a story that was created, and is kept by every turn of either kind. -/
theorem Course.invariant {moves : List (Move around)} {P : List (Move around) → StoredStory → Prop}
    (course : Course start moves story) (initial : P [] start)
    (keeps : ∀ {before story next} (turn : CommittedTurn around story next),
      P before story → P (before ++ [⟨story, next, turn⟩]) next) : P moves story := by
  induction course with
  | created => exact initial
  | turned _ turn ih => exact keeps turn ih

end

/-! Turns that the runtime constructs at the mill. -/
namespace Course.Sample
open Run.Sample

theorem second_turn_accepted : (2 : UInt64) ≠ 0 ∧ (2 : UInt64).toNat ≤ 2 ^ 63 - 1 := by decide

def second : TurnNumber := ⟨2, second_turn_accepted⟩

def first : TurnNumber := ⟨1, first_turn_accepted⟩

def candidate (number : TurnNumber) (snapshot : StorySnapshot) : CandidateTurn where
  storyId := snapshot.storyId
  turnNumber := number
  startedAtMs := 0
  limits := validation
  snapshot := some snapshot
  story := some ⟨⟨"The wheel stops."⟩⟩

def committing (number : TurnNumber) (snapshot : StorySnapshot) (changes : ValidatedChangeSet) :
    TurnCommitSpec where
  storyId := snapshot.storyId
  baseRevision := snapshot.baseRevision
  expectedGraphRevision := snapshot.narrativeState.graphRevision
  turnNumber := number
  changes
  idempotencyKey := "stop"
  requestDigest := "stop"

/-- The rows that a constructed change set leaves of a story. -/
def constructing (number : TurnNumber) (story : StoredStory) : Option StoredStory := do
  let snapshot ← (loadStorySnapshot limits around.uuids story.storyId story).toOption
  let changes ← (candidate number snapshot).constructChangeset.toOption
  let (_, next) ← (commitTurn around.uuids (committing number snapshot changes) story).toOption
  return next

theorem constructing_eq {number : TurnNumber} {story : StoredStory}
    (fresh : story.turns.find? (·.idempotencyKey = "stop") = none) (check : StoredStory → Bool)
    (holds : (constructing number story).any check = true) :
    ∃ next, Nonempty (ConstructedTurn around story next) ∧ check next = true := by
  rw [Option.any_eq_true] at holds
  obtain ⟨next, constructs, checked⟩ := holds
  obtain ⟨snapshot, loaded, constructs⟩ := Option.bind_eq_some_iff.mp constructs
  obtain ⟨changes, built, constructs⟩ := Option.bind_eq_some_iff.mp constructs
  obtain ⟨⟨result, _⟩, committed, constructs⟩ := Option.bind_eq_some_iff.mp constructs
  cases constructs
  have read := Result.toOption_eq_some loaded
  exact ⟨next, ⟨{
    snapshotLimits := limits
    snapshot
    turn := candidate number snapshot
    changes
    spec := committing number snapshot changes
    result
    loaded := read
    held := rfl
    owned := (loadStorySnapshot_shows read).identity
    built := Result.toOption_eq_some built
    committing := rfl
    based := rfl
    expected := rfl
    numbered := rfl
    fresh
    committed := Result.toOption_eq_some committed }⟩, checked⟩

end Course.Sample

end Aise.Domain.Persistence
