import Aise.Story.InstanceFactory
import Aise.Story.ReadSnapshot

/-! The pack that stories are made of. -/
namespace Aise.Domain

structure InitialRoleState where
  location : AssetKey
  goals : List BoundedText
  attributes : BTreeMap AssetKey ScalarValue := ∅
  deriving DecidableEq

structure RelationshipSeed where
  targetRoleId : RoleId
  kind : AssetKey
  trust : Int16
  deriving DecidableEq

structure StoryRoleDefinition where
  roleLabel : BoundedText
  narrativeFunction : BoundedText
  defaultProfile : CharacterProfile
  background : Option BoundedText := none
  initialState : InitialRoleState
  initialRelationships : List RelationshipSeed := []
  seedMemories : List MemorySeed := []
  deriving DecidableEq

structure StoryConstraintDefinition where
  scope : StoryConstraintScope
  requirement : StoryConstraintRequirement
  lifecycle : StoryConstraintLifecycle
  deriving DecidableEq

/-- A world book of the pack itself, or one that is found elsewhere. -/
inductive WorldBookSource where
  | embedded (book : WorldBook)
  | frozen

/-- The part of a pack that is checked once it is read, or that stories are made of. -/
structure StoryPack where
  title : BoundedText
  roles : BTreeMap RoleId StoryRoleDefinition
  playableRoleIds : List RoleId
  worldBook : WorldBookSource
  opening : BoundedText
  narrative : NarrativeGraphDefinition
  constraints : BTreeMap AssetKey StoryConstraintDefinition := ∅

end Aise.Domain
