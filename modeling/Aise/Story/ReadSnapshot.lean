import Aise.Story.Role

/-! The whole snapshot of a story, as it is loaded for a turn, and what the narrative sees of it. -/
namespace Aise.Domain
open RustText Saturating SerdeJson

/-! ### The story so far -/

/-- A stored one is read as any number, also as zero. -/
structure StorySequence where
  get : UInt64
  deriving DecidableEq

/-- `StorySequence::try_new(value).ok()`. -/
def StorySequence.tryNew (value : UInt64) : Option StorySequence :=
  if value ≠ 0 then some ⟨value⟩ else none

inductive StoryContinuityError where
  | zeroSequence | sequenceOverflow | invalidSummaryBoundary | outOfOrder | overlap | gap
  | limitExceeded (limit : String)
  deriving DecidableEq

def StorySequence.next (sequence : StorySequence) : Except StoryContinuityError StorySequence :=
  if sequence.get.toNat + 1 < UInt64.size then
    Result.okOr (StorySequence.tryNew (sequence.get + 1)) .zeroSequence
  else .error .sequenceOverflow

inductive StorySegmentOrigin where
  | opening
  | turn (turnNumber : TurnNumber)
  deriving DecidableEq

structure StorySegment where
  sequence : StorySequence
  origin : StorySegmentOrigin
  text : BoundedText
  deriving DecidableEq

structure StorySummary where
  text : BoundedText
  summarizedThrough : Option StorySequence := none
  deriving DecidableEq

/-- A `StoryContinuity`, with the sequences of its segments. -/
structure SequencedContinuity where
  summary : StorySummary
  recentSegments : List StorySegment
  deriving DecidableEq

structure StoryContinuityLimits where
  maxSummaryBytes : Nat
  maxRecentSegments : Nat
  maxRecentSegmentBytes : Nat
  maxRecentSegmentTokens : UInt64
  deriving DecidableEq

/-- The check of the first segment. -/
def checkFirstSegment (summary : StorySummary) (first : StorySegment) :
    Except StoryContinuityError Unit :=
  match summary.summarizedThrough with
  | some boundary => do
    let expected ← boundary.next.mapError fun _ => .sequenceOverflow
    if first.sequence.get < expected.get then .error .overlap
    else if first.sequence.get > expected.get then .error .gap
    else .ok ⟨⟩
  | none => if first.sequence.get ≠ 1 then .error .gap else .ok ⟨⟩

/-- The loop over windows of two segments. `prev + 1` is evaluated only below some `next`. -/
def checkWindows : List StorySegment → Except StoryContinuityError Unit
  | first :: second :: rest =>
    if second.sequence.get ≤ first.sequence.get then .error .outOfOrder
    else if second.sequence.get ≠ first.sequence.get + 1 then .error .gap
    else checkWindows (second :: rest)
  | _ => .ok ⟨⟩

/-- The tokens of the segments, added with `checked_add`. -/
def segmentTokens (segments : List StorySegment) : Except StoryContinuityError UInt64 :=
  segments.foldlM (fun total segment =>
    let tokens := estimateTextTokens segment.text.value
    if total.toNat + tokens.toNat < UInt64.size then .ok (total + tokens)
    else .error (.limitExceeded "max_recent_segment_tokens")) 0

namespace SequencedContinuity

/-- `StoryContinuity::try_new`. -/
def tryNew (summary : StorySummary) (recentSegments : List StorySegment)
    (limits : StoryContinuityLimits) : Except StoryContinuityError SequencedContinuity := do
  if len summary.text.value > limits.maxSummaryBytes then .error (.limitExceeded "max_summary_bytes")
  else if recentSegments.length > limits.maxRecentSegments then
    .error (.limitExceeded "max_recent_segments")
  else if ∃ segment ∈ recentSegments, len segment.text.value > limits.maxRecentSegmentBytes then
    .error (.limitExceeded "max_recent_segment_bytes")
  else if isBlank summary.text.value ≠ summary.summarizedThrough.isNone then
    .error .invalidSummaryBoundary
  else
    recentSegments.head?.toList.forM (checkFirstSegment summary)
    checkWindows recentSegments
    let tokens ← segmentTokens recentSegments
    if tokens > limits.maxRecentSegmentTokens then
      .error (.limitExceeded "max_recent_segment_tokens")
    else .ok { summary, recentSegments }

variable (continuity : SequencedContinuity)

def latestSequence : Option StorySequence :=
  (continuity.recentSegments.getLast?.map (·.sequence)).or continuity.summary.summarizedThrough

def nextSequence : Except StoryContinuityError StorySequence :=
  match continuity.latestSequence with
  | some latest => latest.next
  | none => Result.okOr (StorySequence.tryNew 1) .zeroSequence

def texts : StoryContinuity where
  summary := continuity.summary.text
  recentSegments := continuity.recentSegments.map (·.text)

end SequencedContinuity

/-! ### Constraints and settings -/

inductive StoryConstraintScope where
  | story
  | scene (sceneKey : AssetKey)
  | role (roleId : RoleId)
  deriving DecidableEq

inductive StoryConstraintLifecycle where
  | persistent
  | throughSequence (sequence : StorySequence)
  | untilNarrativeNodeResolved (nodeKey : AssetKey)
  deriving DecidableEq

structure StoryConstraintSource where
  packId : AssetKey
  constraintKey : AssetKey
  deriving DecidableEq

structure ActiveStoryConstraint where
  id : String
  source : StoryConstraintSource
  scope : StoryConstraintScope
  requirement : StoryConstraintRequirement
  lifecycle : StoryConstraintLifecycle
  deriving DecidableEq

inductive CastPolicy where
  | «open» | incidentalOnly | closed
  deriving DecidableEq

/-! ### The snapshot -/

structure SnapshotLimits where
  maxStoryProfileBytes : Nat
  maxInstanceSettings : Nat
  maxInstanceSettingBytes : Nat
  maxRoles : Nat
  maxRoleBytes : Nat
  maxRelationships : Nat
  maxNarrativeNodes : Nat
  maxConditionFactValues : Nat
  maxConstraints : Nat
  maxConstraintBytes : Nat
  continuity : StoryContinuityLimits
  deriving DecidableEq

/-- All of a `StoryReadSnapshotParts` that is checked, or read by a turn. -/
structure StorySnapshotParts where
  storyId : StoryId
  baseRevision : UInt64
  packDigest : Sha256Digest
  storyTitle : BoundedText
  castPolicy : CastPolicy
  roles : BTreeMap RoleId StoryRoleView
  relationships : List RelationshipState
  narrativeDefinition : NarrativeGraphDefinition
  narrativeState : NarrativeRuntimeState
  factValues : BTreeMap AssetKey ScalarValue
  storyContinuity : SequencedContinuity
  activeConstraints : List ActiveStoryConstraint
  knowledgeSnapshot : KnowledgeSnapshotRef
  roleIdHighWater : UInt64

/-- The part of the snapshot that is checked, with that which contexts are made of. -/
def StorySnapshotParts.readParts (parts : StorySnapshotParts) : StoryReadSnapshotParts where
  storyId := parts.storyId
  baseRevision := parts.baseRevision
  packDigest := parts.packDigest
  storyTitle := parts.storyTitle
  roles := parts.roles.map fun _ role => role.contextView
  relationships := parts.relationships
  narrativeDefinition := parts.narrativeDefinition
  narrativeState := parts.narrativeState
  storyContinuity := parts.storyContinuity.texts
  activeConstraints := parts.activeConstraints.map (·.requirement)
  knowledgeSnapshot := parts.knowledgeSnapshot

/-- A `StoryReadSnapshot` can only be made of parts that pass the checks. -/
structure StorySnapshot extends StorySnapshotParts where
  checked : StoryReadSnapshot
  consistent : toStorySnapshotParts.readParts.tryFromParts = .ok checked

/-- `StoryReadSnapshot::try_from_parts`. -/
def StorySnapshotParts.tryFromParts (parts : StorySnapshotParts) :
    Except StorySnapshotError StorySnapshot :=
  match consistent : parts.readParts.tryFromParts with
  | .ok checked => .ok ⟨parts, checked, consistent⟩
  | .error failure => .error failure

namespace StorySnapshot
variable (snapshot : StorySnapshot)

def role (roleId : RoleId) : Option StoryRoleView := snapshot.roles[roleId]?

def knowledgeIdHighWater : UInt64 := snapshot.knowledgeSnapshot.knowledgeIdHighWater

/-! ### What the narrative sees -/

def knownRole (roleId : RoleId) : Except UnknownRole StoryRoleView :=
  Result.okOr (snapshot.role roleId) ⟨roleId.value⟩

/-- The first relationship of the two roles, of whatever kind. -/
def trustBetween (relationships : List RelationshipState) (source target : RoleId) : Option Int16 :=
  (relationships.find? fun relationship =>
    relationship.sourceRoleId = source ∧ relationship.targetRoleId = target).map (·.trust)

/-- `CommittedNarrativeStateView`. -/
def committedView : NarrativeStateView where
  factValue factKey := .ok snapshot.factValues[factKey]?
  roleAttribute roleId name := do
    let role ← snapshot.knownRole roleId
    return role.state.attribute name
  relationshipTrust source target := do
    let _ ← snapshot.knownRole source
    let _ ← snapshot.knownRole target
    return trustBetween snapshot.relationships source target
  roleController roleId := do
    let role ← snapshot.knownRole roleId
    return role.controller.kind

end StorySnapshot

/-! ### What a snapshot promises -/

theorem StorySnapshotParts.tryFromParts_eq_ok {parts : StorySnapshotParts}
    {snapshot : StorySnapshot} (made : parts.tryFromParts = .ok snapshot) :
    snapshot.toStorySnapshotParts = parts := by
  unfold StorySnapshotParts.tryFromParts at made
  split at made
  · cases made
    rfl
  · cases made

/-- Parts make a snapshot when, and only when, they pass the checks. -/
theorem StorySnapshotParts.tryFromParts_ok_iff {parts : StorySnapshotParts} :
    (∃ snapshot, parts.tryFromParts = .ok snapshot) ↔
      ∃ checked, parts.readParts.tryFromParts = .ok checked := by
  constructor
  · rintro ⟨snapshot, made⟩
    rw [← tryFromParts_eq_ok made]
    exact ⟨snapshot.checked, snapshot.consistent⟩
  · rintro ⟨checked, passed⟩
    unfold StorySnapshotParts.tryFromParts
    split
    · exact ⟨_, rfl⟩
    · rename_i failure failed
      rw [passed] at failed
      cases failed

end Aise.Domain
