import Aise.Persistence.SqliteStore

/-! How the snapshot of a story is loaded from its rows, within the limits of a turn. -/
namespace Aise.Domain
open SerdeJson

def CastPolicy.name : CastPolicy → String
  | «open» => "open"
  | incidentalOnly => "incidental_only"
  | closed => "closed"

def castPolicyCodec : Codec CastPolicy :=
  .unit CastPolicy.name (fun text => [.open, .incidentalOnly, .closed].find? (·.name = text))
    (fun policy => by cases policy <;> rfl)

end Aise.Domain

namespace Aise.Domain.Persistence
open RustText SerdeJson

/-! ### Limits on columns -/

def projectionLimit (items itemBytes overhead : Nat) : Except StoreError Nat :=
  if items * itemBytes + overhead < UInt64.size then .ok (items * itemBytes + overhead)
  else .error (.limitExceeded "snapshot_projection")

def ensureProjectionLength (actual maximum : Nat) (limit : String) : Except StoreError Unit :=
  Result.failIf (actual > maximum) (.limitExceeded limit)

/-- A column that may hold so many items of a size. -/
def ensureItems (column : Json) (items itemBytes : Nat) (limit : String) : Except StoreError Unit := do
  let maximum ← projectionLimit items itemBytes 1024
  ensureProjectionLength column.length maximum limit

/-- SQLite counts the characters of a text up to the first that is zero. -/
def sqlLength (text : String) : Nat := (text.toList.takeWhile (· ≠ '\x00')).length

section
variable (limits : SnapshotLimits)

def ensureInstance (story : StoredStory) : Except StoreError Unit := do
  ensureItems story.settingsJson limits.maxInstanceSettings limits.maxInstanceSettingBytes
    "settings_json"
  ensureItems story.rolesJson limits.maxRoles limits.maxRoleBytes "roles_json"
  ensureItems story.relationshipsJson limits.maxRelationships limits.maxRoleBytes
    "relationships_json"
  ensureItems story.narrativeStateJson limits.maxNarrativeNodes limits.maxRoleBytes
    "narrative_state_json"
  ensureItems story.factValuesJson limits.maxConditionFactValues limits.maxConstraintBytes
    "fact_values_json"
  Result.failIf (limits.continuity.maxSummaryBytes + 256 ≥ UInt64.size)
    (.limitExceeded "story_summary")
  ensureProjectionLength story.storySummaryJson.length (limits.continuity.maxSummaryBytes + 256)
    "story_summary"
  ensureItems story.activeConstraintsJson limits.maxConstraints limits.maxConstraintBytes
    "active_constraints"

def ensurePack (pack : StoredPack) : Except StoreError Unit := do
  ensureProjectionLength pack.profileLength limits.maxStoryProfileBytes "story_profile_json"
  let title ← Result.okOr pack.storyTitle (.serialization .invalidStoryState)
  ensureProjectionLength (sqlLength title) limits.maxStoryProfileBytes "story_title"
  let maximum ← projectionLimit limits.maxNarrativeNodes limits.maxRoleBytes 1024
  ensureProjectionLength pack.narrativeLength maximum "narrative_definition_json"

/-! ### Columns that only a creation writes -/

/-- `InstanceSettings`, with the values that nothing reads. -/
def instanceSettingsCodec : Codec (CastPolicy × BTreeMap AssetKey ScalarValue × Unit) :=
  (Fields.cons "cast_policy" castPolicyCodec (some ⟨.open, trivial⟩)
    <| .cons "values" (.map assetKeys scalarValueCodec) (some ⟨∅, no_scalars_readable⟩)
      .nil).codec 0 (show ["cast_policy", "values"].Nodup by decide)

def factValuesCodec : Codec (BTreeMap AssetKey ScalarValue) := .map assetKeys scalarValueCodec

def storySummaryFields : Fields (BoundedText × Option StorySequence × Unit) :=
  .cons "text" boundedTextCodec none
    <| .cons "summarized_through" (.option storySequenceCodec fun _ => nofun) (some ⟨none, nofun⟩) .nil

/-- A summary is read without a look at other fields. -/
def readStorySummary (json : Json) : Option StorySummary :=
  (storySummaryFields.lenient 2 json).map fun (text, summarizedThrough, _) =>
    ⟨text, summarizedThrough⟩

/-! ### Parts of the snapshot -/

def loadTitle (pack : StoredPack) : Except StoreError BoundedText := do
  let raw ← Result.okOr pack.storyTitle (.serialization .invalidStoryState)
  let title ← (BoundedText.tryNew raw "story_title" limits.maxStoryProfileBytes).mapError
    fun _ => .serialization .invalidStoryState
  if isBlank title.value then .error (.serialization .invalidStoryState) else return title

def loadRoles (uuids : UuidReader) (story : StoredStory) :
    Except StoreError (BTreeMap RoleId StoryRole) := do
  let roles ← Result.okOr ((storyRolesCodec uuids).decode story.rolesJson)
    (.serialization .invalidRoleState)
  Result.failIf (roles.size > limits.maxRoles) (.constraintViolation "max_roles")
  Result.failIf (∃ role ∈ valuesOf roles,
      size ((storyRoleCodec uuids).encode role).pieces > limits.maxRoleBytes)
    (.constraintViolation "max_role_bytes")
  return roles

def loadRelationships (story : StoredStory) : Except StoreError (List RelationshipState) := do
  let relationships ← Result.okOr (relationshipsCodec.decode story.relationshipsJson)
    (.serialization .invalidStoryState)
  Result.failIf (relationships.length > limits.maxRelationships)
    (.constraintViolation "max_relationships")
  return relationships

def loadConstraints (story : StoredStory) : Except StoreError (List ActiveStoryConstraint) := do
  let active ← Result.okOr (activeConstraintsOfJson story.activeConstraintsJson)
    (.serialization .invalidStoryState)
  Result.failIf (active.length > limits.maxConstraints) (.constraintViolation "max_constraints")
  return active

/-- The rows behind a sequence, no more than so many. -/
def segmentsBehind (segments : BTreeMap Nat StoredSegment) (through maximum : Nat) :
    List (Nat × StoredSegment) :=
  (segments.toList.filter fun entry => through < entry.1).take maximum

def loadSegment (entry : Nat × StoredSegment) : Except StoreError StorySegment := do
  let sequence ← Result.okOr (StorySequence.tryNew (UInt64.ofNat entry.1))
    (.serialization .invalidTurnResult)
  let text ← (BoundedText.tryNew entry.2.storyText "recent_segment"
    limits.continuity.maxRecentSegmentBytes).mapError
      fun _ => .constraintViolation "max_recent_segment_bytes"
  return { sequence, origin := entry.2.origin, text }

def summaryThrough (summary : StorySummary) : Nat :=
  (summary.summarizedThrough.map (·.get.toNat)).getD 0

def loadContinuity (story : StoredStory) : Except StoreError SequencedContinuity := do
  let summary ← Result.okOr (readStorySummary story.storySummaryJson)
    (.serialization .invalidStoryState)
  let segmentLimit := limits.continuity.maxRecentSegments + 1
  Result.failIf (segmentLimit ≥ UInt64.size) (.limitExceeded "max_recent_segments")
  Result.failIf (summaryThrough summary ≥ 2 ^ 63) (.serialization .invalidTurnResult)
  Result.failIf (segmentLimit ≥ 2 ^ 63) (.limitExceeded "max_recent_segments")
  let rows := segmentsBehind story.segments (summaryThrough summary) segmentLimit
  Result.failIf (rows.length > limits.continuity.maxRecentSegments)
    (.limitExceeded "max_recent_segments")
  let recentSegments ← rows.mapM (loadSegment limits)
  (SequencedContinuity.tryNew summary recentSegments limits.continuity).mapError
    fun _ => .constraintViolation "story_continuity"

/-! ### The snapshot -/

variable (uuids : UuidReader)

def loadParts (story : StoredStory) : Except StoreError StorySnapshotParts := do
  ensureInstance limits story
  ensurePack limits story.pack
  let storyTitle ← loadTitle limits story.pack
  let settings ← Result.okOr (instanceSettingsCodec.decode story.settingsJson)
    (.serialization .invalidStoryState)
  let roles ← loadRoles limits uuids story
  let relationships ← loadRelationships limits story
  let narrativeState ← Result.okOr (narrativeRuntimeStateCodec.decode story.narrativeStateJson)
    (.serialization .invalidStoryState)
  let factValues ← Result.okOr (factValuesCodec.decode story.factValuesJson)
    (.serialization .invalidStoryState)
  let activeConstraints ← loadConstraints limits story
  let storyContinuity ← loadContinuity limits story
  return {
    storyId := story.storyId
    baseRevision := story.revision.toUInt64
    packDigest := story.pack.digest
    storyTitle
    castPolicy := settings.1
    roles := roles.map fun _ role => role.view
    relationships
    narrativeDefinition := story.pack.narrativeDefinition
    narrativeState
    factValues
    storyContinuity
    activeConstraints
    knowledgeSnapshot := {
      storyId := story.storyId
      packDigest := story.pack.digest
      baseRevision := story.revision.toUInt64
      knowledgeIdHighWater := story.knowledgeIdHighWater.get }
    roleIdHighWater := story.roleIdHighWater.get }

/-- `load_story_snapshot`. -/
def loadStorySnapshot (storyId : StoryId) (story : StoredStory) :
    Except StoreError StorySnapshot := do
  if story.storyId ≠ storyId then .error .notFound
  else
    let parts ← loadParts limits uuids story
    parts.tryFromParts.mapError fun _ => .constraintViolation "story_snapshot"

end

/-! ### What a snapshot shows of the rows -/

/-- The snapshot shows what the columns are read as. -/
structure Shows (uuids : UuidReader) (story : StoredStory) (snapshot : StorySnapshot) : Prop where
  identity : snapshot.storyId = story.storyId
  revision : snapshot.baseRevision = story.revision.toUInt64
  roles : ∃ roles, (storyRolesCodec uuids).decode story.rolesJson = some roles ∧
    snapshot.roles = roles.map fun _ role => role.view
  relationships : relationshipsCodec.decode story.relationshipsJson = some snapshot.relationships
  definition : snapshot.narrativeDefinition = story.pack.narrativeDefinition
  narrative : narrativeRuntimeStateCodec.decode story.narrativeStateJson =
    some snapshot.narrativeState
  facts : factValuesCodec.decode story.factValuesJson = some snapshot.factValues
  constrained : activeConstraintsOfJson story.activeConstraintsJson = some snapshot.activeConstraints
  knowledgeHighWater : snapshot.knowledgeIdHighWater = story.knowledgeIdHighWater.get
  roleHighWater : snapshot.roleIdHighWater = story.roleIdHighWater.get

theorem loadStorySnapshot_shows {limits : SnapshotLimits} {uuids : UuidReader} {storyId : StoryId}
    {story : StoredStory} {snapshot : StorySnapshot}
    (loaded : loadStorySnapshot limits uuids storyId story = .ok snapshot) :
    Shows uuids story snapshot := by
  unfold loadStorySnapshot at loaded
  split at loaded
  · cases loaded
  · obtain ⟨parts, partsLoaded, loaded⟩ := Result.bind_eq_ok loaded
    have same := StorySnapshotParts.tryFromParts_eq_ok (Result.mapError_eq_ok.mp loaded)
    unfold loadParts at partsLoaded
    obtain ⟨_, _, partsLoaded⟩ := Result.bind_eq_ok partsLoaded
    obtain ⟨_, _, partsLoaded⟩ := Result.bind_eq_ok partsLoaded
    obtain ⟨title, _, partsLoaded⟩ := Result.bind_eq_ok partsLoaded
    obtain ⟨settings, _, partsLoaded⟩ := Result.bind_eq_ok partsLoaded
    obtain ⟨roles, rolesLoaded, partsLoaded⟩ := Result.bind_eq_ok partsLoaded
    obtain ⟨relationships, relationshipsLoaded, partsLoaded⟩ := Result.bind_eq_ok partsLoaded
    obtain ⟨narrativeState, narrative, partsLoaded⟩ := Result.bind_eq_ok partsLoaded
    obtain ⟨factValues, facts, partsLoaded⟩ := Result.bind_eq_ok partsLoaded
    obtain ⟨active, activeLoaded, partsLoaded⟩ := Result.bind_eq_ok partsLoaded
    obtain ⟨continuity, _, partsLoaded⟩ := Result.bind_eq_ok partsLoaded
    cases partsLoaded
    obtain ⟨stored, rolesRead, rolesLoaded⟩ := Result.bind_eq_ok rolesLoaded
    obtain ⟨_, _, rolesLoaded⟩ := Result.bind_eq_ok rolesLoaded
    obtain ⟨_, _, rolesLoaded⟩ := Result.bind_eq_ok rolesLoaded
    cases rolesLoaded
    obtain ⟨related, relationshipsRead, relationshipsLoaded⟩ := Result.bind_eq_ok relationshipsLoaded
    obtain ⟨_, _, relationshipsLoaded⟩ := Result.bind_eq_ok relationshipsLoaded
    cases relationshipsLoaded
    obtain ⟨constrained, activeRead, activeLoaded⟩ := Result.bind_eq_ok activeLoaded
    obtain ⟨_, _, activeLoaded⟩ := Result.bind_eq_ok activeLoaded
    cases activeLoaded
    constructor
    · rw [same]
    · rw [same]
    · exact ⟨roles, Result.okOr_eq_ok.mp rolesRead, by rw [same]⟩
    · rw [same]
      exact Result.okOr_eq_ok.mp relationshipsRead
    · rw [same]
    · rw [same]
      exact Result.okOr_eq_ok.mp narrative
    · rw [same]
      exact Result.okOr_eq_ok.mp facts
    · rw [same]
      exact Result.okOr_eq_ok.mp activeRead
    · rw [StorySnapshot.knowledgeIdHighWater, same]
    · rw [same]

end Aise.Domain.Persistence
