import Aise.Domain.Retrieval
import Aise.Lib.OrdMap
import Aise.Domain.Narrative.Graph

/-! The snapshot of a story that a turn reads. Exactly one of its roles is played by a player. -/
namespace Aise.Domain

/-- The kind of a relationship is a text of the pack. -/
structure RelationshipState where
  sourceRoleId : RoleId
  targetRoleId : RoleId
  kind : String
  trust : Int16
  deriving DecidableEq

instance : LawfulBEq (RoleId × RoleId × String) := Prod.instLawfulBEq

def RelationshipState.key (relationship : RelationshipState) : RoleId × RoleId × String :=
  (relationship.sourceRoleId, relationship.targetRoleId, relationship.kind)

def RoleContextView.isPlayerControlled (role : RoleContextView) : Bool :=
  match role.controller with
  | .player _ => true
  | .ai => false

abbrev StoryRoles := BTreeMap RoleId RoleContextView

def playerRoleIds (roles : StoryRoles) : List RoleId :=
  ((valuesOf roles).filter (·.isPlayerControlled)).map (·.roleId)

/-- The fields of a `StoryReadSnapshotParts` that are checked or read. -/
structure StoryReadSnapshotParts where
  storyId : StoryId
  baseRevision : UInt64
  packDigest : Sha256Digest
  storyTitle : BoundedText
  roles : StoryRoles
  relationships : List RelationshipState := []
  narrativeDefinition : NarrativeGraphDefinition
  narrativeState : NarrativeRuntimeState := {}
  storyContinuity : StoryContinuity
  activeConstraints : List StoryConstraintRequirement := []
  knowledgeSnapshot : KnowledgeSnapshotRef

structure StoryReadSnapshot extends StoryReadSnapshotParts where
  playerRoleId : RoleId
  keyed : ∀ (roleId : RoleId) (role : RoleContextView), roles[roleId]? = some role →
    role.roleId = roleId
  player : playerRoleIds roles = [playerRoleId]

/-- `StorySnapshotError::Inconsistent`. -/
structure StorySnapshotError where
  code : String
  deriving DecidableEq

def inconsistent {α : Type} (code : String) : Except StorySnapshotError α := .error ⟨code⟩

namespace StoryReadSnapshotParts
variable (parts : StoryReadSnapshotParts)

def nodeKnown (key : AssetKey) : Bool := key ∈ parts.narrativeDefinition.nodes

/-- The loop over the relationships, with the keys seen so far. -/
def checkRelationships (roles : StoryRoles) :
    (seen : List (RoleId × RoleId × String)) → List RelationshipState →
      Except StorySnapshotError Unit
  | _, [] => .ok ⟨⟩
  | seen, relationship :: rest =>
    if relationship.sourceRoleId ∉ roles ∨ relationship.targetRoleId ∉ roles then
      inconsistent "relationship_role_missing"
    else if relationship.key ∈ seen then inconsistent "relationship_duplicate"
    else checkRelationships roles (relationship.key :: seen) rest

/-- The checks that come after the player is known. -/
def checkReferences : Except StorySnapshotError Unit := do
  checkRelationships parts.roles [] parts.relationships
  if ∃ key ∈ parts.narrativeState.nodeStates.keys ++ parts.narrativeState.activationTurns.keys,
      parts.nodeKnown key = false then
    inconsistent "narrative_state_reference_invalid"
  else if ∃ pending ∈ valuesOf parts.narrativeState.pendingEffects,
      parts.nodeKnown pending.sourceNode = false then
    inconsistent "narrative_pending_effect_reference_invalid"
  else .ok ⟨⟩

theorem keyed_of_forall {roles : StoryRoles}
    (keyed : ∀ entry ∈ roles.toList, entry.1 = entry.2.roleId) (roleId : RoleId)
    (role : RoleContextView) (found : roles[roleId]? = some role) : role.roleId = roleId :=
  (keyed (roleId, role) (Std.ExtTreeMap.mem_toList_iff_getElem?_eq_some.mpr found)).symm

/-- `StoryReadSnapshot::try_from_parts`. -/
def tryFromParts : Except StorySnapshotError StoryReadSnapshot :=
  if parts.knowledgeSnapshot.storyId ≠ parts.storyId then inconsistent "knowledge_story_id_mismatch"
  else if parts.knowledgeSnapshot.packDigest ≠ parts.packDigest then
    inconsistent "knowledge_pack_digest_mismatch"
  else if parts.knowledgeSnapshot.baseRevision ≠ parts.baseRevision then
    inconsistent "knowledge_base_revision_mismatch"
  else if keyed : ∀ entry ∈ parts.roles.toList, entry.1 = entry.2.roleId then
    match player : playerRoleIds parts.roles with
    | [playerRoleId] => do
      parts.checkReferences
      .ok { parts with playerRoleId, keyed := keyed_of_forall keyed, player }
    | _ => inconsistent "player_role_count"
  else inconsistent "role_map_key_mismatch"

end StoryReadSnapshotParts

namespace StoryReadSnapshot
variable (snapshot : StoryReadSnapshot)

def role (roleId : RoleId) : Option RoleContextView := snapshot.roles[roleId]?

variable {snapshot} {roleId : RoleId} {role : RoleContextView}

/-- Whoever is not the player is played by the machine. -/
theorem controller_of_ne_player (found : snapshot.role roleId = some role)
    (other : roleId ≠ snapshot.playerRoleId) : role.controller = .ai := by
  cases controlled : role.controller with
  | ai => rfl
  | player playerId =>
    have member : role.roleId ∈ playerRoleIds snapshot.roles := by
      refine List.mem_map.mpr ⟨role, List.mem_filter.mpr ⟨mem_valuesOf.mpr ⟨roleId, found⟩, ?_⟩, rfl⟩
      simp [RoleContextView.isPlayerControlled, controlled]
    rw [snapshot.player, List.mem_singleton, snapshot.keyed roleId role found] at member
    exact absurd member other

end StoryReadSnapshot

end Aise.Domain
