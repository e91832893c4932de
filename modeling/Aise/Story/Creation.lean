import Aise.Domain.Asset.StoryPack
import Aise.Domain.Narrative.Bootstrap
import Aise.Persistence.SqliteSnapshot

/-! How a story is created of a pack, and the rows it starts with. -/
namespace Aise.Domain.Persistence
open RustText SerdeJson Sorting

/-! ### What a creation reads -/

/-- A pack as it is stored, with the world book that it names. -/
structure StoredStoryPack where
  row : StoredPack
  pack : StoryPack
  resolvedWorldBook : WorldBook
  narrated : row.narrativeDefinition = pack.narrative

/-- The part of the pack that becomes knowledge. -/
def StoredStoryPack.frozen (stored : StoredStoryPack) : FrozenStoryPack where
  packId := stored.row.packId
  digest := stored.row.digest
  resolvedWorldBook := stored.resolvedWorldBook
  seedMemories := stored.pack.roles.map fun _ role => role.seedMemories

structure CreateStoryInstanceSpec where
  playerId : String
  playerRoleId : RoleId
  roleProfileSelections : BTreeMap RoleId FrozenCharacterCardRef := ∅
  createdAtMs : Int64

structure StoryInstantiationLimits where
  maxRoles : Nat
  maxRoleBytes : Nat
  maxFacts : Nat
  maxRumors : Nat
  maxMemories : Nat
  maxRelationships : Nat
  maxOpeningBytes : Nat
  activationRuleLimits : ActivationRuleLimits

structure FrozenCharacterCard where
  frozenRef : FrozenCharacterCardRef
  profile : CharacterProfile

/-- The errors of `StoryInstantiationError`, of which some are those of the knowledge. A selection
is never duplicated, as it comes in a map. -/
inductive StoryCreationError where
  | roleNotFound (roleId : RoleId)
  | roleNotPlayable (roleId : RoleId)
  | characterCardNotFound | characterCardReferenceMismatch
  | instantiation (error : StoryInstantiationError)
  | store (error : StoreError)
  deriving DecidableEq

/-! ### Checks -/

def enforceLimit (actual maximum : Nat) (limit : String) : Except StoryCreationError Unit :=
  Result.failIf (actual > maximum) (.instantiation (.limitExceeded limit))

def invalidReference (code : String) : StoryCreationError := .instantiation (.invalidReference code)

/-- What stands for a new identifier of the store, and for the cards in it. -/
structure CreationSources where
  storyId : StoryId
  loadCharacter : FrozenCharacterCardRef → Except StoreError FrozenCharacterCard

section
variable (limits : StoryInstantiationLimits) (stored : StoredStoryPack)
  (spec : CreateStoryInstanceSpec)

/-- The checks of `materialize` that come first. A sum that overflows is past its limit anyway. -/
def checkSelections : Except StoryCreationError Unit := do
  let roles := stored.pack.roles
  Result.failIf (spec.playerRoleId ∉ roles) (.roleNotFound spec.playerRoleId)
  Result.failIf (spec.playerRoleId ∉ stored.pack.playableRoleIds) (.roleNotPlayable spec.playerRoleId)
  enforceLimit roles.size limits.maxRoles "max_roles"
  Result.failIf (spec.roleProfileSelections.size > roles.size)
    (.instantiation (.limitExceeded "max_roles"))
  spec.roleProfileSelections.keys.forM fun roleId =>
    Result.failIf (roleId ∉ roles) (.roleNotFound roleId)
  enforceLimit stored.resolvedWorldBook.facts.size limits.maxFacts "max_facts"
  enforceLimit stored.resolvedWorldBook.rumors.size limits.maxRumors "max_rumors"
  enforceLimit ((valuesOf roles).map (·.seedMemories.length)).sum limits.maxMemories "max_memories"
  enforceLimit ((valuesOf roles).map (·.initialRelationships.length)).sum limits.maxRelationships
    "max_relationships"

/-! ### Roles -/

def resolveCards (sources : CreationSources) :
    Except StoryCreationError (BTreeMap RoleId FrozenCharacterCard) :=
  spec.roleProfileSelections.toList.foldlM (fun cards (roleId, reference) => do
    let card ← (sources.loadCharacter reference).mapError fun
      | .notFound => StoryCreationError.characterCardNotFound
      | other => .store other
    if card.frozenRef ≠ reference then .error .characterCardReferenceMismatch
    else return cards.insert roleId card) ∅

def materializeRole (cards : BTreeMap RoleId FrozenCharacterCard) (roleId : RoleId)
    (definition : StoryRoleDefinition) : StoryRole where
  roleId
  controller := if roleId = spec.playerRoleId then .player spec.playerId else .ai
  roleLabel := definition.roleLabel
  narrativeFunction := definition.narrativeFunction
  background := definition.background
  effectiveProfile := (cards[roleId]?.map (·.profile)).getD definition.defaultProfile
  sourceCharacter := cards[roleId]?.map (·.frozenRef)
  state := {
    location := definition.initialState.location
    goals := definition.initialState.goals
    attributes := definition.initialState.attributes }

def materializeRoles (uuids : UuidReader) (cards : BTreeMap RoleId FrozenCharacterCard) :
    Except StoryCreationError (BTreeMap RoleId StoryRole) :=
  stored.pack.roles.toList.foldlM (fun roles (roleId, definition) =>
    let role := materializeRole spec cards roleId definition
    if size ((storyRoleCodec uuids).encode role).pieces > limits.maxRoleBytes then
      .error (.instantiation (.limitExceeded "max_role_bytes"))
    else .ok (roles.insert roleId role)) ∅

/-! ### Relationships -/

def materializeRelationship (roles : BTreeMap RoleId StoryRole) (sourceRoleId : RoleId)
    (relationships : List RelationshipState) (seed : RelationshipSeed) :
    Except StoryCreationError (List RelationshipState) :=
  let relationship : RelationshipState :=
    ⟨sourceRoleId, seed.targetRoleId, seed.kind.asStr, seed.trust⟩
  if seed.targetRoleId ∉ roles then .error (invalidReference "relationship_target_missing")
  else if relationship.key ∈ relationships.map (·.key) then
    .error (invalidReference "duplicate_relationship")
  else .ok (relationships ++ [relationship])

def materializeRelationships (roles : BTreeMap RoleId StoryRole) :
    Except StoryCreationError (List RelationshipState) := do
  let relationships ← stored.pack.roles.toList.foldlM (fun relationships (sourceRoleId, role) =>
    if sourceRoleId ∉ roles then .error (invalidReference "relationship_source_missing")
    else role.initialRelationships.foldlM (materializeRelationship roles sourceRoleId) relationships) []
  return sort RelationshipState.orderedKey relationships

/-! ### Constraints -/

def materializeConstraint (storyId : StoryId) (entry : AssetKey × StoryConstraintDefinition) :
    Except StoryCreationError ActiveStoryConstraint := do
  let id := s!"{storyId.value}:seed:constraint:{entry.1.asStr}"
  Result.failIf (isBlank id) (invalidReference "constraint_id_invalid")
  return {
    id
    source := ⟨stored.row.packId, entry.1⟩
    scope := entry.2.scope
    requirement := entry.2.requirement
    lifecycle := entry.2.lifecycle }

/-! ### Rows -/

structure MaterializedStoryInstanceSpec where
  storyId : StoryId
  roles : BTreeMap RoleId StoryRole
  relationships : List RelationshipState
  knowledge : List KnowledgeEntry
  knowledgeIdHighWater : UInt64
  narrativeState : NarrativeRuntimeState
  activeConstraints : List ActiveStoryConstraint
  opening : BoundedText

/-- `StoryInstanceFactory::materialize`. -/
def materialize (uuids : UuidReader) (externals : Externals) (engine : RegexEngine)
    (narrativeLimits : NarrativeLimits) (sources : CreationSources) :
    Except StoryCreationError MaterializedStoryInstanceSpec := do
  checkSelections limits stored spec
  let cards ← resolveCards spec sources
  let roles ← materializeRoles limits stored spec uuids cards
  let relationships ← materializeRelationships stored roles
  let (knowledge, knowledgeIdHighWater) ← (materializeKnowledge externals engine
    limits.activationRuleLimits stored.frozen spec.createdAtMs).mapError .instantiation
  let activeConstraints ← stored.pack.constraints.toList.mapM
    (materializeConstraint stored sources.storyId)
  enforceLimit (len stored.pack.opening.value) limits.maxOpeningBytes "max_opening_bytes"
  let narrativeState ← (bootstrapNarrativeState stored.pack.narrative
    (bootstrapView roles relationships) narrativeLimits).mapError fun _ =>
      invalidReference "narrative_bootstrap_failed"
  return {
    storyId := sources.storyId
    roles
    relationships
    knowledge
    knowledgeIdHighWater
    narrativeState
    activeConstraints
    opening := stored.pack.opening }

end

def insertKnowledge (entries : List KnowledgeEntry) : Except StoreError KnowledgeRows :=
  entries.foldlM (fun rows entry => applyKnowledgeOperation rows (.add entry)) ∅

theorem insertKnowledge_keyed {entries : List KnowledgeEntry} {rows : KnowledgeRows}
    (inserted : insertKnowledge entries = .ok rows) : KnowledgeKeyed rows :=
  Result.foldlM_invariant (P := KnowledgeKeyed)
    (fun keyed step => applyKnowledgeOperation_keyed keyed step) inserted (by
      intro id entry found
      rw [Std.ExtTreeMap.getElem?_empty] at found
      cases found)

/-- The summary of a story that has just begun. -/
def emptySummaryJson : Json := .obj [("text", .str ""), ("summarized_through", .null)]

/-- `create_story_instance`, with the columns that have defaults. -/
def createStoryInstance (uuids : UuidReader) (row : StoredPack)
    (spec : MaterializedStoryInstanceSpec) : Except StoreError StoredStory := do
  let knowledgeIdHighWater ← StoredCount.store spec.knowledgeIdHighWater
  let knowledge ← Result.attach (insertKnowledge spec.knowledge)
  return {
    storyId := spec.storyId
    pack := row
    revision := 0
    lastTurnNumber := ⟨0, by decide⟩
    storySummaryJson := emptySummaryJson
    activeConstraintsJson := activeConstraintsToJson spec.activeConstraints
    settingsJson := instanceSettingsCodec.encode (.open, ∅, ⟨⟩)
    rolesJson := (storyRolesCodec uuids).encode spec.roles
    relationshipsJson := relationshipsCodec.encode spec.relationships
    narrativeStateJson := narrativeRuntimeStateCodec.encode spec.narrativeState
    factValuesJson := factValuesCodec.encode ∅
    knowledgeIdHighWater
    roleIdHighWater := ⟨0, by decide⟩
    segments := (∅ : BTreeMap Nat StoredSegment).insert 1 ⟨.opening, spec.opening.value⟩
    knowledge := knowledge.1
    sequenced := by
      intro sequence member
      rw [Std.ExtTreeMap.mem_insert, compare_eq_iff_eq] at member
      obtain rfl | member := member
      · exact ⟨by decide, by decide⟩
      · exact absurd member Std.ExtTreeMap.not_mem_empty
    turnsPast _ member := absurd member List.not_mem_nil
    eventsPast _ member := absurd member List.not_mem_nil
    knowledgeKeyed := insertKnowledge_keyed knowledge.2 }

section
variable (uuids : UuidReader) (externals : Externals)
  (engine : RegexEngine)

/-- `StoryInstanceFactory::create`. -/
def createStory (limits : StoryInstantiationLimits) (narrativeLimits : NarrativeLimits)
    (sources : CreationSources) (stored : StoredStoryPack) (spec : CreateStoryInstanceSpec) :
    Except StoryCreationError StoredStory := do
  let materialized ← materialize limits stored spec uuids externals engine narrativeLimits sources
  (createStoryInstance uuids stored.row materialized).mapError .store

variable {uuids externals engine}

/-! ### What a story starts with -/

/-- What the rows are made of. -/
structure MaterializedFrom (uuids : UuidReader) (externals : Externals) (engine : RegexEngine)
    (limits : StoryInstantiationLimits) (narrativeLimits : NarrativeLimits)
    (stored : StoredStoryPack) (spec : CreateStoryInstanceSpec)
    (materialized : MaterializedStoryInstanceSpec) : Prop where
  roles : ∃ cards, materializeRoles limits stored spec uuids cards = .ok materialized.roles
  relationships : materializeRelationships stored materialized.roles = .ok materialized.relationships
  knowledge : materializeKnowledge externals engine limits.activationRuleLimits stored.frozen
    spec.createdAtMs = .ok (materialized.knowledge, materialized.knowledgeIdHighWater)
  narrative : bootstrapNarrativeState stored.pack.narrative
    (bootstrapView materialized.roles materialized.relationships) narrativeLimits =
      .ok materialized.narrativeState

theorem materialize_eq_ok {limits : StoryInstantiationLimits} {narrativeLimits : NarrativeLimits}
    {sources : CreationSources} {stored : StoredStoryPack} {spec : CreateStoryInstanceSpec}
    {materialized : MaterializedStoryInstanceSpec}
    (made : materialize limits stored spec uuids externals engine narrativeLimits sources =
      .ok materialized) :
    MaterializedFrom uuids externals engine limits narrativeLimits stored spec materialized := by
  unfold materialize at made
  obtain ⟨_, _, made⟩ := Result.bind_eq_ok made
  obtain ⟨cards, _, made⟩ := Result.bind_eq_ok made
  obtain ⟨roles, rolesMade, made⟩ := Result.bind_eq_ok made
  obtain ⟨relationships, relationshipsMade, made⟩ := Result.bind_eq_ok made
  obtain ⟨⟨knowledge, highWater⟩, known, made⟩ := Result.bind_eq_ok made
  obtain ⟨active, _, made⟩ := Result.bind_eq_ok made
  obtain ⟨_, _, made⟩ := Result.bind_eq_ok made
  obtain ⟨narrative, bootstrapped, made⟩ := Result.bind_eq_ok made
  cases made
  exact ⟨⟨cards, rolesMade⟩, relationshipsMade, Result.mapError_eq_ok.mp known,
    Result.mapError_eq_ok.mp bootstrapped⟩

/-- The rows of `story` are those of a new story. -/
structure StartsAs (uuids : UuidReader) (row : StoredPack)
    (spec : MaterializedStoryInstanceSpec) (story : StoredStory) : Prop where
  pack : story.pack = row
  revision : story.revision = 0
  lastTurn : story.lastTurnNumber.get = 0
  roles : story.rolesJson = (storyRolesCodec uuids).encode spec.roles
  relationships : story.relationshipsJson = relationshipsCodec.encode spec.relationships
  narrative : story.narrativeStateJson = narrativeRuntimeStateCodec.encode spec.narrativeState
  facts : story.factValuesJson = factValuesCodec.encode ∅
  knowledge : insertKnowledge spec.knowledge = .ok story.knowledge
  knowledgeHighWater : story.knowledgeIdHighWater.get = spec.knowledgeIdHighWater
  roleHighWater : story.roleIdHighWater.get = 0
  turns : story.turns = []
  events : story.events = []

theorem createStoryInstance_eq_ok {row : StoredPack} {spec : MaterializedStoryInstanceSpec}
    {story : StoredStory} (created : createStoryInstance uuids row spec = .ok story) :
    StartsAs uuids row spec story := by
  unfold createStoryInstance at created
  obtain ⟨highWater, counted, created⟩ := Result.bind_eq_ok created
  obtain ⟨knowledge, _, created⟩ := Result.bind_eq_ok created
  cases created
  exact {
    pack := rfl
    revision := rfl
    lastTurn := rfl
    roles := rfl
    relationships := rfl
    narrative := rfl
    facts := rfl
    knowledge := knowledge.2
    knowledgeHighWater := StoredCount.store_eq_ok counted
    roleHighWater := rfl
    turns := rfl
    events := rfl }

/-- The columns of a new story that its turns go on from. -/
theorem createStoryInstance_columns {row : StoredPack} {spec : MaterializedStoryInstanceSpec}
    {story : StoredStory} (created : createStoryInstance uuids row spec = .ok story) :
    story.segments = (∅ : BTreeMap Nat StoredSegment).insert 1 ⟨.opening, spec.opening.value⟩ ∧
      story.storySummaryJson = emptySummaryJson ∧
      story.activeConstraintsJson = activeConstraintsToJson spec.activeConstraints := by
  unfold createStoryInstance at created
  obtain ⟨_, _, created⟩ := Result.bind_eq_ok created
  obtain ⟨_, _, created⟩ := Result.bind_eq_ok created
  cases created
  exact ⟨rfl, rfl, rfl⟩

end

end Aise.Domain.Persistence
